/-!
# Settings

## Main definitions

* `Settings`: the rules of an evaluation and the precision of its display
* `Settings.standard`, `Settings.lenient`, `Settings.strict`: the three named settings
* `Settings.setDigits`: changes the precision within its bound
* `Settings.describe`: the settings as the journal shows them
-/

namespace DeskCalculator

/-- The rules of an evaluation and the precision of its display. -/
structure Settings where
  /-- Whether an opening bracket must be closed. -/
  strictBrackets : Bool
  /-- Whether an evaluation must end with a single value. -/
  strictStack : Bool
  /-- The greatest number of decimal places shown. -/
  digits : Nat
  deriving DecidableEq, Repr

namespace Settings

/-- The greatest precision that can be set: further digits of a binary64 number say nothing. -/
def maxDigits : Nat := 17

/-- The settings at the start: brackets must be closed, values may be left over, ten places. -/
def standard : Settings := ⟨true, false, 10⟩

/-- Neither rule holds. -/
def lenient : Settings := { standard with strictBrackets := false, strictStack := false }

/-- Both rules hold. -/
def strict : Settings := { standard with strictBrackets := true, strictStack := true }

/-- Sets the precision, at most `maxDigits`. -/
def setDigits (s : Settings) (n : Nat) : Settings :=
  { s with digits := min n maxDigits }

/-- The settings as the journal shows them. -/
def describe (s : Settings) : String :=
  "Reglages \x7b parentheses_strictes: " ++ boolText s.strictBrackets ++
    ", pile_stricte: " ++ boolText s.strictStack ++ ", chiffres: " ++ s.digits.repr ++ " \x7d"
where
  /-- The words for the two truth values. -/
  boolText (b : Bool) : String := if b then "true" else "false"

end Settings

end DeskCalculator
