import DeskCalculator.Desk.Toolkit

/-!
# The window

The window shows the desk as labelled controls and takes clicks and keys. A panel with the settings
can be opened and closed. The window is drawn in frames: first the entry field, then the controls,
and the field for the precision last.

## Main definitions

* `Window`: the desk, the panel, and what the toolkit remembers
* `Window.frame`: what one frame does
* `Window.click`, `Window.press`, `Window.turnPrecision`: the acts of the user
-/

namespace DeskCalculator

/-- The window that a toolkit draws. -/
structure Window (T : Toolkit) where
  desk : Desk
  /-- Whether the panel with the settings is open. -/
  settingsOpen : Bool := false
  /-- What the toolkit remembers. -/
  memory : T.Memory := T.start

namespace Window

/-- What an act of the user comes to, beside the window. -/
inductive Reply where
  /-- It was done. -/
  | done
  /-- An evaluation was asked for, and it wrote these records. -/
  | evaluated (journal : Journal)
  /-- No control of this label is shown. -/
  | notShown (label : String)

variable {T : Toolkit}

/-- The control of a label, if it is shown. -/
def control? (w : Window T) (label : String) : Option Control :=
  Control.all.find? fun c => c.label == label && (w.settingsOpen || !c.isSetting)

/-- The window after a change of the desk. -/
def mapDesk (w : Window T) (f : Desk → Desk) : Window T :=
  { w with desk := f w.desk }

/-- What a control does. -/
def activate (w : Window T) (c : Control) : Window T :=
  { w with
    desk := w.desk.activate c
    settingsOpen := if c = .settingsPanel then !w.settingsOpen else w.settingsOpen }

/-- The key that clears the entry works before anything is drawn. -/
def takeKey (w : Window T) (input : Input) : Window T :=
  if input = .key .escape then w.mapDesk Desk.clearEntry else w

/-- The entry field is drawn. It asks for the focus that is pending, and the key that evaluates
works if the field has the focus then. -/
def drawEntry (w : Window T) (input : Input) : Window T :=
  let drawn := T.drawEntry w.memory input
  let memory := if w.desk.focus then T.requestFocus drawn else drawn
  let desk := { w.desk with focus := false }
  { w with
    memory
    desk := if input = .key .enter ∧ T.hasFocus memory then desk.evaluate.1 else desk }

/-- The controls are drawn, and the one that is clicked works. -/
def drawControls (w : Window T) : Input → Window T
  | .click c => w.activate c
  | .nothing | .key _ | .precision _ => w

/-- The field for the precision is drawn if its panel is open. It holds a number of 32 bits, and
only a change of that number is passed on. -/
def drawPrecision (w : Window T) (input : Input) : Window T :=
  if w.settingsOpen then
    let shown := w.desk.settings.digits.toUInt32
    let held := T.drawNumber w.memory Settings.maxDigits.toUInt32 shown input.number?
    if held = shown then w else w.mapDesk fun d => d.setDigits held.toNat
  else w

/-- What the window does in one frame, in the order in which it is drawn. -/
def frame (w : Window T) (input : Input) : Window T :=
  (((w.takeKey input).drawEntry input).drawControls input).drawPrecision input

/-- A click on the control of a label. -/
def click (w : Window T) (label : String) : Window T × Reply :=
  match w.control? label with
  | some c => (w.frame (.click c), .done)
  | none => (w.frame .nothing, .notShown label)

/-- A key is pressed in one frame and let go in the next. -/
def press (w : Window T) (k : Key) : Window T :=
  (w.frame (.key k)).frame .nothing

/-- Sets the field for the precision. -/
def turnPrecision (w : Window T) (n : Int) : Window T × Reply :=
  if w.settingsOpen then (w.frame (.precision n), .done)
  else (w.frame .nothing, .notShown precisionLabel)

end Window

end DeskCalculator
