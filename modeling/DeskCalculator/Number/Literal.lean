import DeskCalculator.Number.Binary64

/-!
# Reading numbers

A number is a sign that may be missing, then a decimal with at least one digit and perhaps a point
and an exponent, or the name of an infinity or of the float that is no number. Its value is the
nearest float, ties to even, however many digits there are.

## Main definitions

* `Literal`, `Literal.ofChars?`: an unsigned decimal and its grammar
* `Literal.value`: the nearest float
* `readFloat?`: the value of a text, if it is a number
* `LiteralFault`, `literalFault`: why a text is no number
-/

namespace DeskCalculator.Number

/-- An unsigned decimal: its digits as one number, to be scaled by a power of ten. -/
structure Literal where
  digits : List Char
  scale : Int
  deriving DecidableEq, Repr

/-- The natural number that a list of digits writes. -/
def digitsValue (digits : List Char) : Nat :=
  Nat.ofDigitChars 10 digits 0

/-- An exponent without its letter: a sign that may be missing, then at least one digit. -/
def exponentOfChars? (s : List Char) : Option Int :=
  let (negative, digits) := match s with
    | '-' :: r => (true, r)
    | '+' :: r => (false, r)
    | r => (false, r)
  if digits ≠ [] ∧ digits.all Char.isDigit then
    let n : Int := digitsValue digits
    some (if negative then -n else n)
  else none

/-- What follows the digits of a decimal: nothing, or an exponent behind its letter. -/
def exponentPart? : List Char → Option Int
  | [] => some 0
  | c :: r => if c = 'e' ∨ c = 'E' then exponentOfChars? r else none

/-- An unsigned decimal: digits, perhaps a point and more digits, at least one digit in all, and
perhaps an exponent. -/
def Literal.ofChars? (s : List Char) : Option Literal :=
  let whole := s.takeWhile Char.isDigit
  let afterWhole := s.dropWhile Char.isDigit
  let (fraction, afterFraction) := match afterWhole with
    | '.' :: r => (r.takeWhile Char.isDigit, r.dropWhile Char.isDigit)
    | r => ([], r)
  if whole = [] ∧ fraction = [] then none
  else (exponentPart? afterFraction).map fun exponent =>
    ⟨whole ++ fraction, exponent - fraction.length⟩

/-- Decimals from `10 ^ 400` on exceed every float, and those below `10 ^ -400` are less than half
of the smallest one. -/
def exponentBound : Int := 400

/-- The float nearest to an unsigned decimal. The place of the first digit that is not zero decides
for the decimals that are far too great or too small, so that no great power of ten is computed for
them. -/
def Literal.value (l : Literal) : Float :=
  let significant := l.digits.dropWhile (· == '0')
  let top := significant.length + l.scale
  if significant = [] ∨ top < -exponentBound then nearest 0 1
  else if exponentBound < top then Float.ofBits infinityBits.toUInt64
  else nearest (digitsValue significant * tenTo l.scale.toNat) (tenTo (-l.scale).toNat)

/-- The value of an unsigned number: a decimal, or a name in letters of either case. -/
def readUnsigned? (s : List Char) : Option Float :=
  match Literal.ofChars? s with
  | some l => some l.value
  | none =>
    let name := String.ofList (s.map Char.toLower)
    if name = "inf" ∨ name = "infinity" then some (Float.ofBits infinityBits.toUInt64)
    else if name = "nan" then some (Float.ofBits (infinityBits + twoTo 51).toUInt64)
    else none

/-- The value of a text, if it is a number. -/
def readFloat? (s : String) : Option Float :=
  match s.toList with
  | '-' :: r => (readUnsigned? r).map fun v => -v
  | '+' :: r => readUnsigned? r
  | r => readUnsigned? r

/-- Why a text is no number. -/
inductive LiteralFault where
  /-- There is no character. -/
  | empty
  /-- The characters do not form a number. -/
  | invalid
  deriving DecidableEq, Repr

/-- The sentence for a fault of a literal. -/
def LiteralFault.message : LiteralFault → String
  | empty => "cannot parse float from empty string"
  | invalid => "invalid float literal"

/-- The fault of a text that is no number. -/
def literalFault (s : String) : LiteralFault :=
  if s = "" then .empty else .invalid

end DeskCalculator.Number
