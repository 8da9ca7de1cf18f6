import DeskCalculator.Number.Numeral
import DeskCalculator.Number.Shortest
import DeskCalculator.Settings.Basic
import DeskCalculator.Text.Quoted
import DeskCalculator.Token.Basic
import DeskCalculator.Failure

/-!
# The journal

What the calculator does is recorded as facts; their level, their origin and their sentence follow
from the fact.

## Main definitions

* `Level`: how much a record matters
* `Record`, `Record.level`, `Record.origin`, `Record.message`: the facts
* `Journal`, `Journal.upTo`: the records in their order, and those that matter enough
-/

namespace DeskCalculator

/-- How much a record matters, from most to least. -/
inductive Level where
  | error | warn | info | debug | trace
  deriving DecidableEq, Repr

/-- The place of a level in that order. -/
def Level.rank : Level → Nat
  | error => 1
  | warn => 2
  | info => 3
  | debug => 4
  | trace => 5

/-- The word for a level. -/
def Level.text : Level → String
  | error => "ERROR"
  | warn => "WARN"
  | info => "INFO"
  | debug => "DEBUG"
  | trace => "TRACE"

/-- The parts of the calculator that write records. -/
inductive Origin where
  | conversion | evaluation | settings | desk | program
  deriving DecidableEq, Repr

/-- The facts that are recorded. -/
inductive Record where
  /-- An expression was converted to postfix form. -/
  | converted (expression : String) (result : List Token)
  /-- An operation gave a value, after which so many values are on the stack. -/
  | applied (operation : String) (value : Float) (size : Nat)
  /-- An evaluation ended with a value. -/
  | evaluated (value : Float)
  /-- The tokens of an expression that has a value. -/
  | tokenized (expression : String) (tokens : List Token)
  /-- The desk shows a value for an entry. -/
  | answered (entry : String) (answer : String)
  /-- The desk shows a failure for an entry. -/
  | refused (entry : String) (cause : Failure)
  /-- The value of the variable for the strict rules says nothing. -/
  | strictIgnored (value : String)
  /-- The value of the variable for the precision is no numeral. -/
  | digitsIgnored (value : String) (fault : Number.NumeralFault)
  /-- The program started. -/
  | started (settings : Settings)

namespace Record

/-- How much a fact matters. -/
def level : Record → Level
  | converted .. | evaluated .. | tokenized .. => .debug
  | applied .. => .trace
  | answered .. | started .. => .info
  | refused .. | strictIgnored .. | digitsIgnored .. => .warn

/-- The part of the calculator that records a fact. -/
def origin : Record → Origin
  | converted .. => .conversion
  | applied .. | evaluated .. | tokenized .. => .evaluation
  | strictIgnored .. | digitsIgnored .. => .settings
  | answered .. | refused .. => .desk
  | started .. => .program

/-- The sentence for a fact. -/
def message : Record → String
  | converted expression result =>
    "RPN de " ++ Text.quoted expression ++ " : " ++ Token.listText result
  | applied operation value size =>
    operation ++ " -> " ++ Number.plainText value ++ " (pile: " ++ size.repr ++ ")"
  | evaluated value => "résultat: " ++ Number.plainText value
  | tokenized expression tokens =>
    "jetons de " ++ Text.quoted expression ++ " : " ++ Token.listText tokens
  | answered entry answer => Text.quoted entry ++ " = " ++ answer
  | refused entry cause => Text.quoted entry ++ " : " ++ cause.message
  | strictIgnored value =>
    "CALCULATRICE_STRICT=" ++ Text.quoted value ++
      " ignoré (attendu: oui/non, true/false, 1/0)"
  | digitsIgnored value fault =>
    "CALCULATRICE_CHIFFRES=" ++ Text.quoted value ++ " ignoré: " ++ fault.message
  | started settings => "Calculatrice RPN : démarrage natif, réglages " ++ settings.describe

end Record

/-- The records, in the order in which they were written. -/
abbrev Journal := List Record

/-- The records that matter at least as much as `threshold`; without one, none. -/
def Journal.upTo (threshold : Option Level) (j : Journal) : Journal :=
  match threshold with
  | none => []
  | some t => j.filter fun r => r.level.rank ≤ t.rank

end DeskCalculator
