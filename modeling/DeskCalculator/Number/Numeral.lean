import DeskCalculator.Number.Power

/-!
# Numerals of machine words

## Main definitions

* `NumeralFault`: why a text is no such numeral
* `readNumeral`: the number of a numeral that fits into a word
-/

namespace DeskCalculator.Number

/-- Why a text is not the numeral of a machine word. -/
inductive NumeralFault where
  /-- There is no digit. -/
  | empty
  /-- A character is no digit. -/
  | invalidDigit
  /-- The number does not fit. -/
  | tooLarge
  deriving DecidableEq, Repr

/-- The sentence for a fault of a numeral. -/
def NumeralFault.message : NumeralFault → String
  | empty => "cannot parse integer from empty string"
  | invalidDigit => "invalid digit found in string"
  | tooLarge => "number too large to fit in target type"

/-- The first number that does not fit into a machine word of 64 bits. -/
def wordBound : Nat := twoTo 64

/-- Reads digits behind a number read so far. The first fault counts. -/
def readDigits (sofar : Nat) : List Char → Except NumeralFault Nat
  | [] => .ok sofar
  | c :: r =>
    if c.isDigit then
      let n := 10 * sofar + (c.toNat - '0'.toNat)
      if n < wordBound then readDigits n r else .error .tooLarge
    else .error .invalidDigit

/-- The number of a numeral: perhaps a plus sign, then at least one digit. -/
def readNumeral (s : String) : Except NumeralFault Nat :=
  match s.toList with
  | [] => .error .empty
  | ['+'] => .error .invalidDigit
  | '+' :: digits => readDigits 0 digits
  | digits => readDigits 0 digits

end DeskCalculator.Number
