import DeskCalculator.Number.Power
import DeskCalculator.Number.Rounding

/-!
# Binary64 numbers as exact quantities

Every finite float is a whole number of steps of size `2 ^ -1074`, the distance between the
smallest floats. Printing and reading numbers is arithmetic on that count.

## Main definitions

* `Binary64`, `Binary64.ofFloat`: what a float stands for, read off its bits
* `stepsPerUnit`: the number of steps in the number one
* `spacing`: the distance, in steps, between neighbouring floats of a given size
* `nearest`: the float nearest to a quotient
-/

namespace DeskCalculator.Number

/-- What a float stands for. -/
inductive Binary64 where
  /-- Not a number. -/
  | nan
  /-- An infinity. -/
  | infinite (negative : Bool)
  /-- `steps * 2 ^ -1074`, with a sign that zero has as well. -/
  | finite (negative : Bool) (steps : Nat)
  deriving DecidableEq, Repr

/-- The number of steps in the number one. -/
def stepsPerUnit : Nat := twoTo 1074

/-- The value of a float: a sign bit, eleven bits of exponent and 52 bits of fraction. Exponent zero
counts the fraction alone, a higher one adds the leading bit and doubles for each unit above one. -/
def Binary64.ofFloat (v : Float) : Binary64 :=
  let bits := v.toBits.toNat
  let negative := decide (twoTo 63 ≤ bits)
  let exponent := bits / twoTo 52 % twoTo 11
  let fraction := bits % twoTo 52
  if exponent = 2047 then
    if fraction = 0 then .infinite negative else .nan
  else if exponent = 0 then .finite negative fraction
  else .finite negative ((twoTo 52 + fraction) * twoTo (exponent - 1))

/-- The logarithm of the distance, in steps, between neighbouring floats from `steps` steps on:
a float has at most 53 significant bits. -/
def spacingExponent (steps : Nat) : Nat :=
  steps.log2 - 52

/-- The distance, in steps, between neighbouring floats from `steps` steps on. -/
def spacing (steps : Nat) : Nat :=
  twoTo (spacingExponent steps)

/-- The bits of positive infinity. -/
def infinityBits : Nat := 2047 * twoTo 52

/-- The bits of the float nearest to `num / den`, ties to even. The rounded count of spacings still
holds the leading bit, so that adding it to the exponent field also carries a count that rounding
has lifted to the next power of two; what exceeds the finite floats becomes infinity. -/
def nearestBits (num den : Nat) : Nat :=
  let scaled := num * stepsPerUnit
  let exponent := spacingExponent (scaled / den)
  min (exponent * twoTo 52 + roundHalfEven scaled (den * twoTo exponent)) infinityBits

/-- The float nearest to `num / den`, ties to even. -/
def nearest (num den : Nat) : Float :=
  Float.ofBits (nearestBits num den).toUInt64

end DeskCalculator.Number
