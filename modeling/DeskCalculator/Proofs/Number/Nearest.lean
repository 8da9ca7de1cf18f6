import DeskCalculator.Number.Decimal
import Mathlib.Algebra.Order.Field.Basic
import Mathlib.Algebra.Order.Ring.Rat
import Mathlib.Algebra.Ring.Int.Parity
import Mathlib.Data.Rat.Cast.Order
import Mathlib.Tactic.FieldSimp
import Mathlib.Tactic.Linarith
import Mathlib.Tactic.Push

/-!
# Rounding to nearest, ties to even

What a rounded number is, without a computation: no whole number is nearer, and of two equally near
ones it is the even one. This fixes the rounded number, and the desk's quotient meets it.

## Main definitions

* `IsNearestEven`: the whole number nearest to a rational one
* `RoundsTo`: the number with so many decimal places that is nearest to a rational one

## Main results

* `IsNearestEven.unique`, `RoundsTo.unique`: there is at most one
* `isNearestEven_roundHalfEven`, `isNearestEven_roundToPlaces`: the desk computes it, for a quotient
  and for a float
-/

namespace DeskCalculator.Number

/-- A distance in units, and the distance of the multiples of the unit. -/
theorem abs_div_sub_mul {unit : ℚ} (pos : 0 < unit) (a y : ℚ) :
    |a / unit - y| * unit = |a - y * unit| := by
  conv_lhs => rw [← abs_of_pos pos]
  rw [← abs_mul, abs_of_pos pos, sub_mul, div_mul_cancel₀ _ pos.ne']

/-- `k` is the whole number nearest to `x`; of two equally near ones it is the even one. -/
structure IsNearestEven (x : ℚ) (k : ℤ) : Prop where
  near : |x - k| ≤ 1 / 2
  tie : |x - k| = 1 / 2 → Even k

/-- `y` is `x` rounded to `places` decimal places, ties to even. -/
def RoundsTo (places : Nat) (x y : ℚ) : Prop :=
  ∃ k : ℤ, IsNearestEven (x * 10 ^ places) k ∧ y = k / 10 ^ places

namespace IsNearestEven

variable {x : ℚ} {k m : ℤ}

theorem neg (nearest : IsNearestEven x k) : IsNearestEven (-x) (-k) := by
  have size : |-x - ((-k : ℤ) : ℚ)| = |x - k| := by
    rw [Int.cast_neg, neg_sub_neg, abs_sub_comm]
  exact ⟨size.trans_le nearest.near, fun tie => (nearest.tie (size.symm.trans tie)).neg⟩

/-- Two nearest numbers in order would both be half a unit away, so both even and neighbours. -/
theorem le_of_nearest (nearest : IsNearestEven x k) (other : IsNearestEven x m) : m ≤ k := by
  by_contra less
  have step : k + 1 ≤ m := not_le.mp less
  have step_cast : (k : ℚ) + 1 ≤ m := by exact_mod_cast step
  have below := abs_le.mp nearest.near
  have above := abs_le.mp other.near
  have half : x - k = 1 / 2 := by linarith
  have half' : x - m = -(1 / 2) := by linarith
  have even := nearest.tie (by rw [half]; norm_num)
  have even' := other.tie (by rw [half']; norm_num)
  have neighbour : m = k + 1 := by
    have : (m : ℚ) = k + 1 := by linarith
    exact_mod_cast this
  rw [neighbour, Int.even_add_one] at even'
  exact even' even

/-- **At most one number is the nearest one.** -/
theorem unique (nearest : IsNearestEven x k) (other : IsNearestEven x m) : k = m :=
  le_antisymm (other.le_of_nearest nearest) (nearest.le_of_nearest other)

/-- No whole number is nearer. -/
theorem abs_sub_le_abs_sub (nearest : IsNearestEven x k) (c : ℤ) : |x - k| ≤ |x - c| := by
  rcases eq_or_ne c k with rfl | ne
  · exact le_rfl
  · -- different whole numbers are a unit apart, which the two distances must make up
    have apart : (1 : ℚ) ≤ |(c : ℚ) - k| := by
      exact_mod_cast Int.one_le_abs (sub_ne_zero.mpr ne)
    have detour := abs_sub_le (c : ℚ) x k
    rw [abs_sub_comm (c : ℚ) x] at detour
    linarith [nearest.near]

theorem le_of_le (nearest : IsNearestEven x k) {c : ℤ} (le : x ≤ c) : k ≤ c := by
  by_contra above
  have step : (c : ℚ) + 1 ≤ k := by exact_mod_cast not_le.mp above
  linarith [(abs_le.mp nearest.near).1]

theorem ge_of_ge (nearest : IsNearestEven x k) {c : ℤ} (ge : c ≤ x) : c ≤ k := by
  by_contra below
  have step : (k : ℚ) + 1 ≤ c := by exact_mod_cast not_le.mp below
  linarith [(abs_le.mp nearest.near).2]

end IsNearestEven

theorem roundsTo_div_iff {places : Nat} {x : ℚ} {k : ℤ} :
    RoundsTo places x (k / 10 ^ places) ↔ IsNearestEven (x * 10 ^ places) k := by
  constructor
  · rintro ⟨m, nearest, same⟩
    rw [div_left_inj' (pow_ne_zero _ (by norm_num)), Int.cast_inj] at same
    rwa [same]
  · exact fun nearest => ⟨k, nearest, rfl⟩

/-- **At most one number is the rounded one.** -/
theorem RoundsTo.unique {places : Nat} {x y z : ℚ} (first : RoundsTo places x y)
    (second : RoundsTo places x z) : y = z := by
  obtain ⟨k, nearest, rfl⟩ := first
  obtain ⟨m, other, rfl⟩ := second
  rw [nearest.unique other]

/-! ## The desk's quotient -/

section Quotient

variable (num : Nat) {den : Nat}

/-- A quotient half a unit away from its rounded number was rounded to an even one. -/
theorem even_roundHalfEven (pos : 0 < den)
    (tie : 2 * (den * roundHalfEven num den) = 2 * num + den ∨
      2 * num = 2 * (den * roundHalfEven num den) + den) : Even (roundHalfEven num den) := by
  have division := Nat.div_add_mod num den
  have remainder := Nat.mod_lt num pos
  rw [Nat.even_iff]
  simp only [roundHalfEven] at tie ⊢
  by_cases low : 2 * (num % den) < den
  · rw [if_pos low] at tie
    omega
  · rw [if_neg low] at tie ⊢
    by_cases high : den < 2 * (num % den)
    · rw [if_pos high, Nat.mul_add] at tie
      omega
    · rw [if_neg high]
      omega

theorem isNearestEven_roundHalfEven (pos : 0 < den) :
    IsNearestEven (num / den) (roundHalfEven num den) := by
  have unit : (0 : ℚ) < den := Nat.cast_pos.mpr pos
  have upper : 2 * ((den : ℚ) * roundHalfEven num den) ≤ 2 * num + den := by
    exact_mod_cast two_mul_den_mul_roundHalfEven_le num pos
  have lower : 2 * (num : ℚ) ≤ 2 * (den * roundHalfEven num den) + den := by
    exact_mod_cast le_two_mul_den_mul_roundHalfEven num pos
  have distance : ((num : ℚ) / den - roundHalfEven num den) * den =
      num - den * roundHalfEven num den := by
    rw [sub_mul, div_mul_cancel₀ _ unit.ne', mul_comm (den : ℚ)]
  refine ⟨?_, fun tie => ?_⟩
  · rw [Int.cast_natCast, abs_le]
    constructor <;> refine le_of_mul_le_mul_right ?_ unit <;> rw [distance] <;> linarith
  · rw [Int.cast_natCast, abs_eq (by norm_num)] at tie
    rw [Int.even_coe_nat]
    apply even_roundHalfEven num pos
    rcases tie with above | below
    · right
      rw [above] at distance
      have : 2 * (num : ℚ) = 2 * (den * roundHalfEven num den) + den := by linarith
      exact_mod_cast this
    · left
      rw [below] at distance
      have : 2 * ((den : ℚ) * roundHalfEven num den) = 2 * num + den := by linarith
      exact_mod_cast this

end Quotient

/-- A number of steps is rounded to the number of decimal units nearest to it. -/
theorem isNearestEven_roundToPlaces (steps places : Nat) :
    IsNearestEven (steps / stepsPerUnit * 10 ^ places) (roundToPlaces steps places) := by
  have scaled : ((steps * tenTo places : Nat) : ℚ) / stepsPerUnit =
      steps / stepsPerUnit * 10 ^ places := by
    rw [Nat.cast_mul, mul_div_right_comm, tenTo, Nat.pow_eq, Nat.cast_pow, Nat.cast_ofNat]
  rw [← scaled]
  exact isNearestEven_roundHalfEven (steps * tenTo places) (twoTo_pos 1074)

end DeskCalculator.Number
