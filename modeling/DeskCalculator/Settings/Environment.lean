import DeskCalculator.Journal.Record

/-!
# Settings from the environment

Two variables override the standard settings, each on its own: one names the strict rules, the other
gives the precision. A value that says nothing is recorded and ignored.

## Main definitions

* `Environment`: the raw values of the two variables
* `Settings.rulesOf?`: the settings that a value of the first variable names
* `Settings.ofValues`, `Environment.settings`: the settings, and the records of what was ignored
-/

namespace DeskCalculator

/-- The settings that a word names: yes, no, or neither. -/
def Settings.rulesOf? (word : String) : Option Settings :=
  if word = "1" ∨ word = "true" ∨ word = "oui" then some strict
  else if word = "0" ∨ word = "false" ∨ word = "non" then some lenient
  else none

/-- The settings under a value of the variable for the strict rules. -/
def Settings.withRules (strict : Option String) : Settings × Journal :=
  match strict with
  | none => (standard, [])
  | some value =>
    let word := Text.lowerCase (Text.trim value)
    match rulesOf? word with
    | some s => (s, [])
    | none => (standard, [.strictIgnored word])

/-- Settings changed by a value of the variable for the precision. -/
def Settings.withDigits (s : Settings) (digits : Option String) : Settings × Journal :=
  match digits with
  | none => (s, [])
  | some value =>
    match Number.readNumeral (Text.trim value) with
    | .ok n => (s.setDigits n, [])
    | .error fault => (s, [.digitsIgnored value fault])

/-- The settings under the values of the two variables, if they are set. -/
def Settings.ofValues (strict digits : Option String) : Settings × Journal :=
  let (s, ignored) := withRules strict
  let (s, ignored') := s.withDigits digits
  (s, ignored ++ ignored')

/-- The raw values of the two variables, if they are set. -/
structure Environment where
  /-- The variable for the strict rules. -/
  strict : Option ByteArray
  /-- The variable for the precision. -/
  digits : Option ByteArray

/-- The settings under an environment. A value that is no UTF-8 text counts as not set. -/
def Environment.settings (e : Environment) : Settings × Journal :=
  Settings.ofValues (e.strict.bind String.fromUTF8?) (e.digits.bind String.fromUTF8?)

end DeskCalculator
