import DeskCalculator.Settings.Environment

/-!
# The start of the program

## Main definitions

* `Program.start`: the settings at the start, and the records written up to then
* `Program.threshold`: the least level that is written
* `Program.startJournal`: the records of the start that are written
-/

namespace DeskCalculator.Program

/-- The settings at the start, and the records written up to then. -/
def start (e : Environment) : Settings × Journal :=
  let (s, ignored) := e.settings
  (s, ignored ++ [.started s])

/-- The least level that is written when none is named. -/
def standardThreshold : Level := .info

/-- The least level that is written, as a word names it; `off`, like a word that names no level,
keeps the journal empty. -/
def threshold (word : Option String) : Option Level :=
  match word with
  | none => some standardThreshold
  | some "error" => some .error
  | some "warn" => some .warn
  | some "info" => some .info
  | some "debug" => some .debug
  | some "trace" => some .trace
  | some _ => none

/-- The records of the start that pass the threshold which a word names. -/
def startJournal (e : Environment) (word : Option String) : Journal :=
  (start e).2.upTo (threshold word)

end DeskCalculator.Program
