import DeskCalculator.Number.Binary64
import Mathlib

/-!
# The exact value of a float

Core unpacks a float into a sign, a whole mantissa and an exponent of two, and so fixes the rational
number that it denotes. The desk reads the fields of the bits on its own, as a sign and a count of
steps. The two readings agree on every finite float.

## Main definitions

* `exactValue`: the rational number that a float denotes
* `Binary64.exponentField`, `Binary64.fractionField`, `Binary64.signField`: the fields of the bits
* `Binary64.stepsOfBits`: the number of steps that the bits stand for

## Main results

* `Binary64.unpackedValue_unpack`: core's unpacking gives the steps of the bits
* `Binary64.exists_steps`: a finite float stands for its exact value in steps
-/

namespace DeskCalculator.Number

open Float.Model (Format UnpackedFloat)

/-- The rational number that an unpacked float denotes; what is not finite counts as zero. -/
def unpackedValue : UnpackedFloat → ℚ
  | .finite sign mantissa exponent _ => (sign.apply mantissa : ℤ) * 2 ^ exponent
  | _ => 0

/-- The rational number that a float denotes: its mantissa times its power of two, with its sign.
What is not finite counts as zero. -/
def exactValue (v : Float) : ℚ :=
  unpackedValue v.toModel.unpack

namespace Binary64

/-! ## The fields of the bits -/

/-- The exponent field of a bit pattern. -/
def exponentField (bits : Nat) : Nat := bits / twoTo 52 % twoTo 11

/-- The fraction field of a bit pattern. -/
def fractionField (bits : Nat) : Nat := bits % twoTo 52

/-- Whether the sign bit of a bit pattern is set. -/
def signField (bits : Nat) : Bool := decide (twoTo 63 ≤ bits)

/-- The number of steps that a bit pattern stands for, unless its exponent field is the greatest. -/
def stepsOfBits (bits : Nat) : Nat :=
  if exponentField bits = 0 then fractionField bits
  else (twoTo 52 + fractionField bits) * twoTo (exponentField bits - 1)

section Fields

variable (b : BitVec Format.binary64.numBits)

theorem toNat_unpackExponent :
    (UnpackedFloat.unpackExponent b).toNat = exponentField b.toNat := by
  rw [UnpackedFloat.unpackExponent_def, BitVec.extractLsb'_toNat, Nat.shiftRight_eq_div_pow]
  rfl

theorem toNat_unpackMantissa :
    (UnpackedFloat.unpackMantissa b).toNat = fractionField b.toNat := by
  rw [UnpackedFloat.unpackMantissa_def, BitVec.extractLsb'_toNat, Nat.shiftRight_zero]
  rfl

/-- The leading bit in front of the fraction. -/
theorem toNat_one_append (fraction : BitVec 52) :
    (1#1 ++ fraction).toNat = twoTo 52 + fraction.toNat := by
  rw [BitVec.toNat_append, ← Nat.shiftLeft_add_eq_or_of_lt fraction.isLt]
  rfl

theorem toNat_one_append_unpackMantissa :
    (1#1 ++ UnpackedFloat.unpackMantissa b).toNat = twoTo 52 + fractionField b.toNat := by
  rw [← toNat_unpackMantissa]
  exact toNat_one_append _

theorem apply_unpackSign (k : ℤ) :
    (UnpackedFloat.Sign.ofBitVec (UnpackedFloat.unpackSign b)).apply k =
      if signField b.toNat then -k else k := by
  have sign : (UnpackedFloat.unpackSign b).toNat = b.toNat / 2 ^ 63 % 2 := by
    rw [UnpackedFloat.unpackSign_def, BitVec.extractLsb'_toNat, Nat.shiftRight_eq_div_pow]
    rfl
  have bound : b.toNat < 2 ^ 64 := b.isLt
  have clear : UnpackedFloat.unpackSign b = 0#1 ↔ b.toNat < 2 ^ 63 := by
    rw [BitVec.toNat_eq, sign]
    show b.toNat / 2 ^ 63 % 2 = 0 ↔ _
    omega
  have set : signField b.toNat = true ↔ ¬b.toNat < 2 ^ 63 := by
    rw [signField, decide_eq_true_iff, not_lt]
    rfl
  by_cases low : b.toNat < 2 ^ 63
  · rw [if_neg (set.not_left.mpr low), UnpackedFloat.Sign.ofBitVec, if_pos (clear.mpr low)]
    rfl
  · rw [if_pos (set.mpr low), UnpackedFloat.Sign.ofBitVec, if_neg (clear.not.mpr low)]
    rfl

theorem unpackExponent_eq_top :
    UnpackedFloat.unpackExponent b = -BitVec.ofNat Format.binary64.exponentBits 1 ↔
      exponentField b.toNat = 2047 := by
  rw [BitVec.toNat_eq, toNat_unpackExponent]
  rfl

theorem unpackExponent_eq_zero :
    UnpackedFloat.unpackExponent b = BitVec.ofNat Format.binary64.exponentBits 0 ↔
      exponentField b.toNat = 0 := by
  rw [BitVec.toNat_eq, toNat_unpackExponent]
  rfl

end Fields

/-! ## Core's reading -/

/-- The sign of a whole number, as a factor in front of its multiples. -/
theorem cast_signed_mul (negative : Bool) (k : ℤ) (x : ℚ) :
    ((if negative then -k else k : ℤ) : ℚ) * x = (if negative then -1 else 1) * (k * x) := by
  split <;> push_cast <;> ring

section Unpack

variable {b : BitVec Format.binary64.numBits}

theorem isFinite_unpack_of_top (top : exponentField b.toNat = 2047) :
    (UnpackedFloat.unpack Format.binary64 b).isFinite = false := by
  rw [UnpackedFloat.unpack, if_pos ((unpackExponent_eq_top b).mpr top)]
  split <;> rfl

/-- Without the leading bit the fraction counts the steps. -/
theorem unpackedValue_of_zero (zero : exponentField b.toNat = 0) :
    unpackedValue (UnpackedFloat.unpack Format.binary64 b) =
      (if signField b.toNat then -1 else 1) * (fractionField b.toNat * 2 ^ (-1074 : ℤ)) := by
  have not_top : ¬UnpackedFloat.unpackExponent b = -BitVec.ofNat Format.binary64.exponentBits 1 := by
    rw [unpackExponent_eq_top, zero]
    decide
  rw [UnpackedFloat.unpack, if_neg not_top, if_pos ((unpackExponent_eq_zero b).mpr zero)]
  split
  · next none =>
    have empty : fractionField b.toNat = 0 := by
      rw [← toNat_unpackMantissa, none]
      rfl
    simp [unpackedValue, empty]
  · show ((_ : ℤ) : ℚ) * 2 ^ _ = _
    rw [apply_unpackSign, cast_signed_mul, toNat_unpackExponent, toNat_unpackMantissa, zero]
    rfl

/-- With the leading bit, each unit of the exponent field above one doubles. -/
theorem unpackedValue_of_normal (not_top : exponentField b.toNat ≠ 2047)
    (not_zero : exponentField b.toNat ≠ 0) :
    unpackedValue (UnpackedFloat.unpack Format.binary64 b) =
      (if signField b.toNat then -1 else 1) *
        ((twoTo 52 + fractionField b.toNat : Nat) * 2 ^ ((exponentField b.toNat : ℤ) - 1075)) := by
  rw [UnpackedFloat.unpack, if_neg ((unpackExponent_eq_top b).not.mpr not_top),
    if_neg ((unpackExponent_eq_zero b).not.mpr not_zero)]
  show ((_ : ℤ) : ℚ) * 2 ^ _ = _
  rw [apply_unpackSign, cast_signed_mul, toNat_unpackExponent, toNat_one_append_unpackMantissa]
  rfl

end Unpack

/-! ## The desk's reading -/

/-- Multiples of a power of two, in units of another one. -/
theorem mul_twoTo_div_twoTo (mantissa shift unit : Nat) :
    ((mantissa * twoTo shift : Nat) : ℚ) / twoTo unit = mantissa * 2 ^ ((shift : ℤ) - unit) := by
  rw [zpow_sub₀ two_ne_zero, zpow_natCast, zpow_natCast, twoTo, twoTo, Nat.pow_eq, Nat.pow_eq]
  push_cast
  exact mul_div_assoc _ _ _

/-- Core's unpacking gives the steps of the bits, with their sign. -/
theorem unpackedValue_unpack {b : BitVec Format.binary64.numBits}
    (not_top : exponentField b.toNat ≠ 2047) :
    unpackedValue (UnpackedFloat.unpack Format.binary64 b) =
      (if signField b.toNat then -1 else 1) * (stepsOfBits b.toNat / stepsPerUnit : ℚ) := by
  by_cases zero : exponentField b.toNat = 0
  · have steps := mul_twoTo_div_twoTo (fractionField b.toNat) 0 1074
    rw [twoTo_zero, Nat.mul_one, Nat.cast_zero, zero_sub] at steps
    rw [unpackedValue_of_zero zero, stepsOfBits, if_pos zero, stepsPerUnit, steps]
    rfl
  · have shift : ((exponentField b.toNat - 1 : Nat) : ℤ) - (1074 : Nat) =
        exponentField b.toNat - 1075 := by
      omega
    rw [unpackedValue_of_normal not_top zero, stepsOfBits, if_neg zero, stepsPerUnit,
      mul_twoTo_div_twoTo, shift]

theorem exponentField_ne_of_finite {v : Float} (finite : v.isFinite = true) :
    exponentField v.toBits.toNat ≠ 2047 := by
  intro top
  have infinite := isFinite_unpack_of_top (b := v.toModel.toBits.toBitVec) top
  exact absurd (finite.symm.trans infinite) (by decide)

theorem ofFloat_of_finite {v : Float} (finite : v.isFinite = true) :
    ofFloat v = .finite (signField v.toBits.toNat) (stepsOfBits v.toBits.toNat) := by
  refine (if_neg (exponentField_ne_of_finite finite)).trans ?_
  by_cases zero : exponentField v.toBits.toNat = 0
  · rw [stepsOfBits, if_pos zero]
    exact if_pos zero
  · rw [stepsOfBits, if_neg zero]
    exact if_neg zero

/-- **A finite float stands for its exact value.** The desk's count of steps, with the sign, is the
rational number that core's unpacking gives. -/
theorem exists_steps {v : Float} (finite : v.isFinite = true) :
    ∃ negative steps, ofFloat v = .finite negative steps ∧
      exactValue v = (if negative then -1 else 1) * (steps / stepsPerUnit : ℚ) :=
  ⟨_, _, ofFloat_of_finite finite,
    unpackedValue_unpack (b := v.toModel.toBits.toBitVec) (exponentField_ne_of_finite finite)⟩

end Binary64

end DeskCalculator.Number
