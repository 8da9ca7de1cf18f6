import DeskCalculator.Evaluation
import DeskCalculator.Display

/-!
# The desk

The desk holds what its user has entered and what is shown: a result, a failure and the working that
led to the result.

## Main definitions

* `EntryMode`, `EntryMode.evaluate`: how the entry is read and evaluated
* `Desk`, `Desk.start`: the state and its start
* `Desk.clearEntry`, `Desk.clearResults`, `Desk.reset`: the three ways to clear
* `Desk.showFailure`, `Desk.showResult`: what is shown
* `Desk.evaluate`: evaluates the entry and shows what it comes to
-/

namespace DeskCalculator

/-- How the entry is read: as an expression, or as one in postfix form. -/
inductive EntryMode where
  | expression | polish
  deriving DecidableEq, Repr

/-- The value of an entry, with its working. -/
def EntryMode.evaluate (mode : EntryMode) (entry : String) (settings : Settings) :
    Logged (Float × Working) :=
  match mode with
  | .expression => Expression.evaluate entry settings
  | .polish => do
    let value ← Postfix.evaluateText entry settings
    pure (value,
      { tokens := ""
        polish := Text.unwords (Text.words entry)
        note := "Saisie RPN : évaluée directement sur la pile." })

/-- The state of the desk. -/
structure Desk where
  /-- What the user has entered. -/
  entry : String
  /-- How the entry is read. -/
  mode : EntryMode
  /-- The last result, behind an equals sign. -/
  result : String
  /-- The sentence for the last failure, empty if there is none. -/
  failure : String
  /-- The working of the result. -/
  working : Working
  /-- The settings in force. -/
  settings : Settings
  /-- The settings at the start. -/
  startSettings : Settings
  /-- Whether the entry field is to receive the keys. -/
  focus : Bool
  deriving DecidableEq, Repr

namespace Desk

/-- The desk at the start. -/
def start (settings : Settings) : Desk where
  entry := ""
  mode := .expression
  result := ""
  failure := ""
  working := {}
  settings := settings
  startSettings := settings
  focus := true

/-- Clears the entry. -/
def clearEntry (d : Desk) : Desk :=
  { d with entry := "", focus := true }

/-- Clears what is shown. -/
def clearResults (d : Desk) : Desk :=
  { d with result := "", failure := "", working := {}, focus := true }

/-- Clears everything and restores the mode and the settings of the start. -/
def reset (d : Desk) : Desk :=
  { d.clearEntry.clearResults with mode := .expression, settings := d.startSettings }

/-- Shows a failure. The last result stays, its working does not. -/
def showFailure (d : Desk) (sentence : String) : Desk :=
  { d with failure := sentence, working := {}, focus := true }

/-- Shows a result with its working. -/
def showResult (d : Desk) (answer : String) (working : Working) : Desk :=
  { d with result := "= " ++ answer, failure := "", working, focus := true }

/-- Sets the precision. -/
def setDigits (d : Desk) (n : Nat) : Desk :=
  { d with settings := d.settings.setDigits n, focus := true }

/-- Evaluates the entry and shows the result or the failure. -/
def evaluate (d : Desk) : Desk × Journal :=
  let entry := Text.trim d.entry
  let run := d.mode.evaluate entry d.settings
  match run.outcome with
  | .ok (value, working) =>
    let answer := Display.text value d.settings.digits
    (d.showResult answer working, run.journal ++ [.answered entry answer])
  | .error cause =>
    (d.showFailure cause.message, run.journal ++ [.refused entry cause])

end Desk

end DeskCalculator
