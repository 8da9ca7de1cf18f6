import DeskCalculator.Desk.Control

/-!
# The toolkit

The window is drawn by a toolkit of its own, frame by frame. The toolkit remembers which field has
the focus, and keeps the numbers in its fields within their bounds. All that the window asks of it
is stated here, and what it may be relied upon.

## Main definitions

* `Toolkit`: what the window asks of the toolkit
* `Toolkit.Lawful`: what the toolkit is known to do
* `Toolkit.plain`: a toolkit that remembers whether the entry field has the focus
-/

namespace DeskCalculator

/-- What the window asks of the toolkit that draws it. -/
structure Toolkit where
  /-- What it remembers from one frame to the next. -/
  Memory : Type
  /-- What it remembers at the start. -/
  start : Memory
  /-- Draws the entry field, which takes what the user does. -/
  drawEntry : Memory → Input → Memory
  /-- Lets the entry field ask for the focus. -/
  requestFocus : Memory → Memory
  /-- Whether the entry field has the focus. -/
  hasFocus : Memory → Bool
  /-- Draws a field for the numbers up to a bound, and tells the number in it. The field has shown a
  number, and the user may have set another one. -/
  drawNumber : Memory → (bound shown : UInt32) → (set : Option Int) → UInt32

namespace Toolkit

/-- What a toolkit is known to do, whatever it remembers. -/
structure Lawful (T : Toolkit) : Prop where
  /-- A field that asks for the focus has it. -/
  hasFocus_requestFocus (m : T.Memory) : T.hasFocus (T.requestFocus m) = true
  /-- A field of a single line gives the focus away at the key that ends its input. -/
  hasFocus_drawEntry_enter (m : T.Memory) : T.hasFocus (T.drawEntry m (.key .enter)) = false
  /-- A field for a number brings the number within its bounds, even if the user leaves it alone. -/
  toNat_drawNumber (m : T.Memory) (bound shown : UInt32) (set : Option Int) :
    (T.drawNumber m bound shown set).toNat = min (set.getD shown.toNat).toNat bound.toNat

/-- A toolkit that remembers whether the entry field has the focus. The field loses it to whatever
else the user does. -/
def plain : Toolkit where
  Memory := Bool
  start := false
  drawEntry focused input := focused && input == .nothing
  requestFocus _ := true
  hasFocus focused := focused
  drawNumber _ bound shown set := .ofNat (min (set.getD shown.toNat).toNat bound.toNat)

end Toolkit

end DeskCalculator
