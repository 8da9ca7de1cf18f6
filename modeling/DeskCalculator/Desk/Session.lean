import DeskCalculator.Desk.Window

/-!
# Sessions

A session is a sequence of steps from the desk at its start: acts of the user on the window, and
direct changes of the desk.

## Main definitions

* `Step`: the steps
* `Window.perform`: what one step does
* `Window.session`: the windows and replies that a sequence of steps leads to
-/

namespace DeskCalculator

/-- Settings with a precision within the bound that `Settings.setDigits` keeps. -/
abbrev Settings.Bounded := { s : Settings // s.digits ≤ maxDigits }

/-- The steps of a session. -/
inductive Step where
  /-- Replaces the entry. -/
  | setEntry (s : String)
  /-- Replaces the mode of the entry. -/
  | setMode (m : EntryMode)
  /-- Replaces the pending focus. -/
  | setFocus (b : Bool)
  /-- Replaces the settings. -/
  | setSettings (s : Settings.Bounded)
  /-- Adds a piece to the entry. -/
  | insert (piece : String)
  /-- Deletes the last symbol of the entry. -/
  | deleteLast
  /-- Evaluates the entry. -/
  | evaluate
  /-- Clears the entry. -/
  | clearEntry
  /-- Clears what is shown. -/
  | clearResults
  /-- Clears everything. -/
  | reset
  /-- Shows a failure. -/
  | showFailure (sentence : String)
  /-- Shows a result with a working. -/
  | showResult (answer : String) (working : Working)
  /-- Sets the precision. -/
  | setDigits (n : Nat)
  /-- Clicks on a label. -/
  | click (label : String)
  /-- Presses a key. -/
  | press (k : Key)
  /-- Sets the field for the precision. -/
  | turnPrecision (n : Int)
  deriving DecidableEq, Repr

namespace Window

variable {T : Toolkit}

/-- The window at the start of a session. -/
def start (settings : Settings) : Window T :=
  { desk := .start settings }

/-- What one step does. -/
def perform (w : Window T) : Step → Window T × Reply
  | .setEntry s => (w.mapDesk fun d => { d with entry := s }, .done)
  | .setMode m => (w.mapDesk fun d => { d with mode := m }, .done)
  | .setFocus b => (w.mapDesk fun d => { d with focus := b }, .done)
  | .setSettings s => (w.mapDesk fun d => { d with settings := s }, .done)
  | .insert piece => (w.mapDesk fun d => d.insert piece, .done)
  | .deleteLast => (w.mapDesk Desk.deleteLast, .done)
  | .evaluate =>
    let (desk, journal) := w.desk.evaluate
    ({ w with desk }, .evaluated journal)
  | .clearEntry => (w.mapDesk Desk.clearEntry, .done)
  | .clearResults => (w.mapDesk Desk.clearResults, .done)
  | .reset => (w.mapDesk Desk.reset, .done)
  | .showFailure sentence => (w.mapDesk fun d => d.showFailure sentence, .done)
  | .showResult answer working => (w.mapDesk fun d => d.showResult answer working, .done)
  | .setDigits n => (w.mapDesk fun d => d.setDigits n, .done)
  | .click label => w.click label
  | .press k => (w.press k, .done)
  | .turnPrecision n => w.turnPrecision n

/-- The window after a sequence of steps. -/
def performAll (w : Window T) (steps : List Step) : Window T :=
  steps.foldl (fun w s => (w.perform s).1) w

/-- The windows and replies that the steps of a session lead to, one for each step. -/
def session (w : Window T) : List Step → List (Window T × Reply)
  | [] => []
  | s :: steps =>
    let r := w.perform s
    r :: r.1.session steps

end Window

end DeskCalculator
