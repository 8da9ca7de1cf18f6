import DeskCalculator.Text.Basic
import DeskCalculator.Number.Binary64

/-!
# Decimal text of numbers

## Main definitions

* `fixed`: a natural number of decimal units, written with all its decimal places
* `positional`: the same without zeros at the end of the fraction
* `roundToPlaces`: a finite float rounded to a number of decimal places
* `decimalExponent`: the place of the first digit of a quotient
* `Decimal`: a coefficient and a power of ten
* `scientific`: a coefficient of fixed length and an exponent
-/

namespace DeskCalculator.Number

/-- The number `k / 10 ^ places` with exactly `places` digits behind a point, which is left out when
there are none. -/
def fixed (k places : Nat) : List Char :=
  let whole := Nat.toDigits 10 (k / tenTo places)
  if places = 0 then whole
  else whole ++ '.' :: List.leftpad places '0' (Nat.toDigits 10 (k % tenTo places))

/-- The number `k / 10 ^ places`: the whole part, then the fraction behind a point unless it is
zero. The fraction has no zeros at its end. -/
def positional (k places : Nat) : List Char :=
  let whole := Nat.toDigits 10 (k / tenTo places)
  let digits := List.leftpad places '0' (Nat.toDigits 10 (k % tenTo places))
  match Text.dropEndWhile (· == '0') digits with
  | [] => whole
  | fraction => whole ++ '.' :: fraction

/-- The size of a finite float in units of the last of `places` decimal places, ties to even. -/
def roundToPlaces (steps places : Nat) : Nat :=
  roundHalfEven (steps * tenTo places) stepsPerUnit

/-- The exponent of the greatest power of ten that is at most `num / den`, a positive quotient. -/
def decimalExponent (num den : Nat) : Int :=
  if den ≤ num then ((Nat.toDigits 10 (num / den)).length : Int) - 1
  else -((Nat.toDigits 10 ((den - 1) / num)).length : Int)

/-- The number `coefficient * 10 ^ exponent`. -/
structure Decimal where
  coefficient : Nat
  exponent : Int
  deriving DecidableEq, Repr

/-- A decimal number without an exponent, however far its digits are from the point. -/
def Decimal.text (d : Decimal) : List Char :=
  if 0 ≤ d.exponent then positional (d.coefficient * tenTo d.exponent.toNat) 0
  else positional d.coefficient (-d.exponent).toNat

/-- The quotient `num / den` in units of `10 ^ exponent`, as a numerator and a denominator. -/
def inUnits (num den : Nat) (exponent : Int) : Nat × Nat :=
  (num * tenTo (-exponent).toNat, den * tenTo exponent.toNat)

/-- A positive count of steps rounded to `length` significant digits, ties to even. When rounding
lifts the coefficient to the next power of ten, it is that power of the same length. -/
def roundToLength (steps length : Nat) : Decimal :=
  let exponent := decimalExponent steps stepsPerUnit - (length - 1 : Nat)
  let (num, den) := inUnits steps stepsPerUnit exponent
  let coefficient := roundHalfEven num den
  if coefficient = tenTo length then ⟨tenTo (length - 1), exponent + 1⟩
  else ⟨coefficient, exponent⟩

end DeskCalculator.Number
