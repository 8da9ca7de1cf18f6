import DeskCalculator.Number.Literal
import DeskCalculator.Proofs.Number.Nearest
import DeskCalculator.Proofs.Number.Packed

/-!
# Reading is rounding to a nearest float

A decimal is read as the float whose bits the desk composes from an exponent and a rounded count of
spacings. The count may carry into the exponent, and still the bits stand for so many spacings. Each
finite float either is a whole number of spacings or lies below the range in which they are so wide,
so that no float is nearer to the decimal than the one that is read.

## Main definitions

* `IsNearestFloat`: no finite float is nearer to a rational number
* `Binary64.IsSpacingCount`: a number of steps, rounded to spacings that fit its size
* `IsRoundedFloat`: the float composed of such a count
* `overflowBound`: what is not below it is read as an infinity
* `Literal.number`: the rational number that a decimal denotes

## Main results

* `Binary64.stepsOfBits_compose`: what an exponent and a count of spacings stand for
* `Binary64.IsSpacingCount.mul_twoTo_eq`: a number of steps is rounded to one number of steps
* `IsRoundedFloat.isNearestFloat`: the float of a rounded count is a nearest one
* `isRoundedFloat_nearest`: a quotient is rounded to such a float
* `Literal.isRoundedFloat_value`, `Literal.isNearestFloat_value`: so is a decimal
-/

namespace DeskCalculator.Number

/-- `w` is a float nearest to `x`: it is finite, and no finite float is nearer. -/
structure IsNearestFloat (x : ℚ) (w : Float) : Prop where
  finite : w.isFinite = true
  near : ∀ u : Float, u.isFinite = true → |x - exactValue w| ≤ |x - exactValue u|

/-- Half a spacing above the greatest float. What is not below it is read as an infinity. -/
def overflowBound : ℚ := (twoTo 53 - 1 / 2) * twoTo 971

theorem IsNearestFloat.neg {x : ℚ} {w : Float} (h : IsNearestFloat x w) :
    IsNearestFloat (-x) (-w) := by
  refine ⟨isFinite_neg h.finite, fun u finite => ?_⟩
  have mirrored := h.near (-u) (isFinite_neg finite)
  rw [exactValue_neg h.finite, neg_sub_neg, abs_sub_comm]
  rwa [exactValue_neg finite, sub_neg_eq_add, ← abs_neg (x + _), neg_add'] at mirrored

/-! ## Powers of two as rational numbers -/

theorem cast_twoTo_pos (n : Nat) : (0 : ℚ) < twoTo n :=
  Nat.cast_pos.mpr (twoTo_pos n)

theorem stepsPerUnit_pos : (0 : ℚ) < stepsPerUnit :=
  cast_twoTo_pos 1074

theorem cast_twoTo_mul_stepsPerUnit (n : Nat) :
    (twoTo n * stepsPerUnit : ℚ) = twoTo (n + 1074) := by
  rw [stepsPerUnit, ← Nat.cast_mul, ← twoTo_add]

/-! ## Spacings -/

namespace Binary64

/-- What an exponent and a fraction field stand for. -/
theorem stepsOfBits_mul_add {exponent fraction : Nat} (short : fraction < twoTo 52)
    (small : exponent < 2048) :
    stepsOfBits (exponent * twoTo 52 + fraction) =
      if exponent = 0 then fraction else (twoTo 52 + fraction) * twoTo (exponent - 1) := by
  have upper : exponentField (exponent * twoTo 52 + fraction) = exponent := by
    rw [exponentField, Nat.add_comm, Nat.add_mul_div_right _ _ (twoTo_pos 52),
      Nat.div_eq_of_lt short, Nat.zero_add]
    exact Nat.mod_eq_of_lt small
  have lower : fractionField (exponent * twoTo 52 + fraction) = fraction := by
    rw [fractionField, Nat.mul_add_mod_self_right, Nat.mod_eq_of_lt short]
  rw [stepsOfBits, upper, lower]

/-- **What an exponent and a count of spacings stand for.** The leading bit of the count raises the
exponent field by one, and a count that rounding has lifted raises it by two. -/
theorem stepsOfBits_compose {exponent count : Nat} (wide : exponent = 0 ∨ twoTo 52 ≤ count)
    (high : count ≤ twoTo 53) (small : exponent * twoTo 52 + count < infinityBits) :
    stepsOfBits (exponent * twoTo 52 + count) = count * twoTo exponent := by
  have double : twoTo 53 = twoTo 52 * 2 := twoTo_succ 52
  have small : exponent * 2 ^ 52 + count < 2047 * 2 ^ 52 := small
  rcases Nat.lt_or_ge count (twoTo 52) with few | leading
  · obtain rfl : exponent = 0 := wide.resolve_right (Nat.not_le.mpr few)
    rw [stepsOfBits_mul_add few (by decide), if_pos rfl, twoTo_zero, Nat.mul_one]
  · rcases high.lt_or_eq with fits | rfl
    · have bits : exponent * twoTo 52 + count =
          (exponent + 1) * twoTo 52 + (count - twoTo 52) := by
        rw [Nat.add_mul, Nat.one_mul]
        omega
      rw [bits, stepsOfBits_mul_add (by omega) (by omega), if_neg (Nat.succ_ne_zero _),
        Nat.add_sub_cancel' leading, Nat.add_sub_cancel]
    · have bits : exponent * twoTo 52 + twoTo 53 = (exponent + 2) * twoTo 52 + 0 := by
        rw [Nat.add_mul, double]
        omega
      have small : exponent * 2 ^ 52 + 2 ^ 53 < 2047 * 2 ^ 52 := small
      rw [bits, stepsOfBits_mul_add (twoTo_pos 52) (by omega), if_neg (Nat.succ_ne_zero _),
        Nat.add_zero, Nat.add_succ_sub_one, twoTo_succ exponent, double, Nat.mul_right_comm,
        Nat.mul_assoc]

/-- A finite float is a whole number of spacings, or lies below the range where they are so wide. -/
theorem dvd_or_lt_stepsOfBits (bits exponent : Nat) :
    twoTo exponent ∣ stepsOfBits bits ∨ stepsOfBits bits < twoTo (52 + exponent) := by
  have fraction : fractionField bits < twoTo 52 := Nat.mod_lt _ (twoTo_pos 52)
  rw [stepsOfBits]
  split
  · exact .inr (fraction.trans_le (twoTo_mono (Nat.le_add_right _ _)))
  · rcases Nat.lt_or_ge (exponentField bits - 1) exponent with narrow | wide
    · right
      calc (twoTo 52 + fractionField bits) * twoTo (exponentField bits - 1)
        _ < twoTo 53 * twoTo (exponentField bits - 1) := by
          refine Nat.mul_lt_mul_of_pos_right ?_ (twoTo_pos _)
          rw [twoTo_succ 52]
          omega
        _ ≤ twoTo (52 + exponent) := by
          rw [← twoTo_add]
          exact twoTo_mono (by omega)
    · left
      obtain ⟨more, eq⟩ := Nat.exists_eq_add_of_le wide
      rw [eq, twoTo_add]
      exact (Nat.dvd_mul_right _ _).mul_left _

/-- A finite float in steps, with its sign. -/
theorem exactValue_mul_stepsPerUnit {u : Float} (finite : u.isFinite = true) :
    exactValue u * stepsPerUnit =
      (if signField u.toBits.toNat then -1 else 1) * stepsOfBits u.toBits.toNat := by
  have value := unpackedValue_unpack (b := u.toModel.toBits.toBitVec)
    (exponentField_ne_of_finite finite)
  rw [exactValue, Float.Model.unpack, value, mul_assoc, div_mul_cancel₀ _ stepsPerUnit_pos.ne']
  rfl

/-- The greatest float has all the bits of a mantissa and the greatest spacing. -/
theorem stepsOfBits_le {bits : Nat} (not_top : exponentField bits ≠ 2047) :
    stepsOfBits bits ≤ (twoTo 53 - 1) * twoTo 2045 := by
  have fraction : fractionField bits < twoTo 52 := Nat.mod_lt _ (twoTo_pos 52)
  have field : exponentField bits < 2048 := Nat.mod_lt _ (by decide)
  have double : twoTo 53 = twoTo 52 * 2 := twoTo_succ 52
  rw [stepsOfBits]
  split
  · calc fractionField bits
      _ ≤ twoTo 53 - 1 := by omega
      _ ≤ (twoTo 53 - 1) * twoTo 2045 := Nat.le_mul_of_pos_right _ (twoTo_pos 2045)
  · exact Nat.mul_le_mul (by omega) (twoTo_mono (by omega))

theorem abs_exactValue_le {u : Float} (finite : u.isFinite = true) :
    |exactValue u| ≤ (twoTo 53 - 1) * twoTo 971 := by
  have unit := stepsPerUnit_pos
  have size : |exactValue u| * stepsPerUnit = stepsOfBits u.toBits.toNat := by
    rw [← abs_of_pos unit, ← abs_mul, exactValue_mul_stepsPerUnit finite]
    split
    · rw [neg_one_mul, abs_neg, Nat.abs_cast]
    · rw [one_mul, Nat.abs_cast]
  have le : (stepsOfBits u.toBits.toNat : ℚ) ≤ ((twoTo 53 - 1) * twoTo 2045 : Nat) :=
    Nat.cast_le.mpr (stepsOfBits_le (exponentField_ne_of_finite finite))
  rw [Nat.cast_mul, Nat.cast_pred (twoTo_pos 53), ← cast_twoTo_mul_stepsPerUnit 971, ← mul_assoc] at le
  exact le_of_mul_le_mul_right (size.trans_le le) unit

/-- Some whole number of spacings is as near as a given float. -/
theorem exists_spacings_near {a : ℚ} {exponent : Nat} (nonneg : 0 ≤ a)
    (wide : exponent = 0 ∨ (twoTo (52 + exponent) : ℚ) ≤ a) {u : Float}
    (finite : u.isFinite = true) :
    ∃ c : ℤ, |a - c * twoTo exponent| ≤ |a - exactValue u * stepsPerUnit| := by
  rw [exactValue_mul_stepsPerUnit finite]
  generalize u.toBits.toNat = bits
  have steps : (0 : ℚ) ≤ stepsOfBits bits := Nat.cast_nonneg _
  cases signField bits with
  | true =>
    refine ⟨0, ?_⟩
    rw [if_pos rfl, Int.cast_zero, zero_mul, sub_zero, neg_one_mul, sub_neg_eq_add,
      abs_of_nonneg nonneg, abs_of_nonneg (add_nonneg nonneg steps)]
    exact le_add_of_nonneg_right steps
  | false =>
    rw [if_neg Bool.false_ne_true, one_mul]
    have whole : twoTo exponent ∣ stepsOfBits bits →
        ∃ c : ℤ, |a - c * twoTo exponent| ≤ |a - stepsOfBits bits| := by
      rintro ⟨c, eq⟩
      refine ⟨c, le_of_eq ?_⟩
      rw [eq, Int.cast_natCast, Nat.cast_mul, mul_comm]
    rcases dvd_or_lt_stepsOfBits bits exponent with dvd | below
    · exact whole dvd
    · rcases wide with rfl | wide
      · exact whole (one_dvd _)
      · -- the least number of so wide a spacing lies between
        refine ⟨twoTo 52, ?_⟩
        have between : (stepsOfBits bits : ℚ) ≤ twoTo (52 + exponent) := by exact_mod_cast below.le
        rw [Int.cast_natCast, ← Nat.cast_mul, ← twoTo_add, abs_of_nonneg (sub_nonneg.mpr wide),
          abs_of_nonneg (sub_nonneg.mpr (between.trans wide))]
        exact sub_le_sub_left between a

/-! ## A rounded count of spacings -/

/-- A number of steps is rounded to a count of spacings of `twoTo exponent` steps. They are as wide as
its size allows: it has 53 bits above them, or less if they are single steps. -/
structure IsSpacingCount (a : ℚ) (exponent count : Nat) : Prop where
  nonneg : 0 ≤ a
  wide : exponent = 0 ∨ (twoTo (52 + exponent) : ℚ) ≤ a
  high : a < twoTo (53 + exponent)
  nearest : IsNearestEven (a / twoTo exponent) count

namespace IsSpacingCount

variable {a : ℚ} {exponent count : Nat}

theorem count_le (h : IsSpacingCount a exponent count) : count ≤ twoTo 53 := by
  have le : a / twoTo exponent ≤ ((twoTo 53 : Nat) : ℤ) := by
    rw [div_le_iff₀ (cast_twoTo_pos exponent), Int.cast_natCast, ← Nat.cast_mul, ← twoTo_add]
    exact h.high.le
  exact_mod_cast h.nearest.le_of_le le

theorem le_count (h : IsSpacingCount a exponent count) : exponent = 0 ∨ twoTo 52 ≤ count := by
  refine h.wide.imp_right fun wide => ?_
  have ge : (((twoTo 52 : Nat) : ℤ) : ℚ) ≤ a / twoTo exponent := by
    rw [le_div_iff₀ (cast_twoTo_pos exponent), Int.cast_natCast, ← Nat.cast_mul, ← twoTo_add]
    exact wide
  exact_mod_cast h.nearest.ge_of_ge ge

/-- Below the bound the bits are less than those of infinity. -/
theorem bits_lt (h : IsSpacingCount a exponent count)
    (below : a < (twoTo 53 - 1 / 2) * twoTo 2045) :
    exponent * twoTo 52 + count < infinityBits := by
  have high : count ≤ 2 ^ 53 := h.count_le
  show exponent * 2 ^ 52 + count < 2047 * 2 ^ 52
  rcases Nat.lt_or_ge exponent 2045 with less | great
  · omega
  · -- the spacing is the greatest one, and rounding does not lift the count
    have spacing := cast_twoTo_pos 2045
    have greatest : exponent = 2045 := by
      by_contra ne
      have above := h.wide.resolve_left (by omega)
      have mono : (twoTo 53 * twoTo 2045 : ℚ) ≤ twoTo (52 + exponent) := by
        rw [← Nat.cast_mul, ← twoTo_add]
        exact_mod_cast twoTo_mono (by omega)
      have shorter : ((twoTo 53 : ℚ) - 1 / 2) * twoTo 2045 ≤ twoTo 53 * twoTo 2045 :=
        mul_le_mul_of_nonneg_right (by linarith) spacing.le
      linarith
    subst greatest
    have quotient : a / twoTo 2045 < twoTo 53 - 1 / 2 := (div_lt_iff₀ spacing).mpr below
    have near := (abs_le.mp h.nearest.near).1
    have fits : (count : ℚ) < twoTo 53 := by
      rw [Int.cast_natCast] at near
      linarith
    have fits : count < 2 ^ 53 := by exact_mod_cast fits
    omega

/-- What is rounded to no more than the greatest float is below the bound. -/
theorem lt_of_mul_twoTo_le (h : IsSpacingCount a exponent count)
    (le : count * twoTo exponent ≤ (twoTo 53 - 1) * twoTo 2045) :
    a < (twoTo 53 - 1 / 2) * twoTo 2045 := by
  have width := cast_twoTo_pos 2045
  rcases Nat.lt_trichotomy exponent 2045 with less | rfl | greater
  · have mono : (twoTo (53 + exponent) : ℚ) ≤ twoTo 52 * twoTo 2045 := by
      rw [← Nat.cast_mul, ← twoTo_add]
      exact_mod_cast twoTo_mono (by omega)
    have half : (twoTo 52 : ℚ) < twoTo 53 - 1 / 2 := by
      rw [twoTo_succ 52]
      have one : (1 : ℚ) ≤ twoTo 52 := by exact_mod_cast twoTo_pos 52
      push_cast
      linarith
    calc a
      _ < twoTo (53 + exponent) := h.high
      _ ≤ twoTo 52 * twoTo 2045 := mono
      _ < (twoTo 53 - 1 / 2) * twoTo 2045 := mul_lt_mul_of_pos_right half width
  · -- the count would be the greatest one, which is odd, and the number of steps on the tie above it
    by_contra not_below
    have double : twoTo 53 = twoTo 52 * 2 := twoTo_succ 52
    have fits : count ≤ twoTo 53 - 1 := le_of_mul_le_mul_right le (twoTo_pos 2045)
    have fits_cast : (count : ℚ) ≤ twoTo 53 - 1 :=
      (Nat.cast_le.mpr fits).trans_eq (Nat.cast_pred (twoTo_pos 53))
    have above : (twoTo 53 - 1 / 2 : ℚ) ≤ a / twoTo 2045 :=
      (le_div_iff₀ width).mpr (not_lt.mp not_below)
    have near := (abs_le.mp h.nearest.near).2
    have tie : |a / twoTo 2045 - (count : ℤ)| = 1 / 2 := by
      rw [Int.cast_natCast] at near ⊢
      rw [abs_eq (by norm_num)]
      exact .inl (by linarith)
    have even : count % 2 = 0 := Nat.even_iff.mp ((Int.even_coe_nat count).mp (h.nearest.tie tie))
    have greatest : (twoTo 53 : ℚ) ≤ (count + 1 : Nat) := by
      rw [Int.cast_natCast] at near
      push_cast
      linarith
    have greatest : twoTo 53 ≤ count + 1 := Nat.cast_le.mp greatest
    have positive := twoTo_pos 52
    omega
  · have many := h.le_count.resolve_left (by omega)
    have wide : twoTo 52 * twoTo 2046 ≤ count * twoTo exponent :=
      Nat.mul_le_mul many (twoTo_mono (by omega))
    have double : twoTo 52 * twoTo 2046 = twoTo 53 * twoTo 2045 := by
      rw [← twoTo_add, ← twoTo_add]
    have less : (twoTo 53 - 1) * twoTo 2045 < twoTo 53 * twoTo 2045 :=
      Nat.mul_lt_mul_of_pos_right (Nat.sub_lt (twoTo_pos 53) Nat.one_pos) (twoTo_pos 2045)
    omega

/-- What the bits that are composed of a rounded count stand for. -/
theorem exactValue_compose (h : IsSpacingCount a exponent count)
    (small : exponent * twoTo 52 + count < infinityBits) :
    exactValue (Float.ofBits (exponent * twoTo 52 + count).toUInt64) * stepsPerUnit =
      count * twoTo exponent := by
  rw [exactValue_ofBits small, div_mul_cancel₀ _ stepsPerUnit_pos.ne',
    stepsOfBits_compose h.le_count h.count_le small, Nat.cast_mul]

theorem exponent_le {exponent' count' : Nat} (h : IsSpacingCount a exponent count)
    (other : IsSpacingCount a exponent' count') : exponent ≤ exponent' := by
  rcases h.wide with rfl | wide
  · exact Nat.zero_le _
  · by_contra less
    have bounds : (twoTo (52 + exponent) : ℚ) < twoTo (53 + exponent') := wide.trans_lt other.high
    have mono : twoTo (53 + exponent') ≤ twoTo (52 + exponent) := twoTo_mono (by omega)
    exact absurd (Nat.cast_le.mpr mono) bounds.not_ge

/-- **A number of steps is rounded to one number of steps.** -/
theorem mul_twoTo_eq {exponent' count' : Nat} (h : IsSpacingCount a exponent count)
    (other : IsSpacingCount a exponent' count') :
    count * twoTo exponent = count' * twoTo exponent' := by
  obtain rfl := Nat.le_antisymm (h.exponent_le other) (other.exponent_le h)
  have same : (count : ℤ) = count' := h.nearest.unique other.nearest
  rw [Int.ofNat_inj.mp same]

end IsSpacingCount

/-! ## The desk's quotient -/

/-- A number of steps has 53 bits above its spacing, or less if the spacing is one step. -/
theorem spacingExponent_spec (n : Nat) :
    (spacingExponent n = 0 ∨ twoTo (52 + spacingExponent n) ≤ n) ∧
      n < twoTo (53 + spacingExponent n) := by
  have upper : n < twoTo (n.log2 + 1) := Nat.lt_log2_self
  rw [spacingExponent]
  rcases Nat.le_total n.log2 52 with short | long
  · rw [Nat.sub_eq_zero_of_le short]
    exact ⟨.inl rfl, upper.trans_le (twoTo_mono (by omega))⟩
  · have ne : n ≠ 0 := by
      rintro rfl
      exact absurd long (by decide)
    have lower : twoTo n.log2 ≤ n := Nat.log2_self_le ne
    have total : 53 + (n.log2 - 52) = n.log2 + 1 := by omega
    rw [Nat.add_sub_cancel' long, total]
    exact ⟨.inr lower, upper⟩

/-- The desk takes the spacing from the whole part of a quotient, and rounds to it. -/
theorem isSpacingCount_roundHalfEven (num : Nat) {den : Nat} (pos : 0 < den) :
    IsSpacingCount (num / den) (spacingExponent (num / den))
      (roundHalfEven num (den * twoTo (spacingExponent (num / den)))) := by
  have den_pos : (0 : ℚ) < den := Nat.cast_pos.mpr pos
  obtain ⟨wide, high⟩ := spacingExponent_spec (num / den)
  generalize spacingExponent (num / den) = exponent at wide high ⊢
  refine ⟨div_nonneg (Nat.cast_nonneg _) den_pos.le,
    wide.imp_right fun wide => (Nat.cast_le.mpr wide).trans Nat.cast_div_le, ?_, ?_⟩
  · rw [div_lt_iff₀ den_pos]
    exact_mod_cast (Nat.div_lt_iff_lt_mul pos).mp high
  · have product : ((den * twoTo exponent : Nat) : ℚ) = den * twoTo exponent := Nat.cast_mul _ _
    rw [div_div, ← product]
    exact isNearestEven_roundHalfEven num (Nat.mul_pos pos (twoTo_pos exponent))

end Binary64

/-! ## Rounding to a float -/

/-- `w` is the float to which `x` is rounded: its bits are composed of a rounded count of spacings,
below those of infinity. -/
def IsRoundedFloat (x : ℚ) (w : Float) : Prop :=
  ∃ exponent count, Binary64.IsSpacingCount (x * stepsPerUnit) exponent count ∧
    exponent * twoTo 52 + count < infinityBits ∧
    w = Float.ofBits (exponent * twoTo 52 + count).toUInt64

namespace IsRoundedFloat

variable {x : ℚ} {w : Float}

/-- The float stands for the rounded number of steps. -/
theorem exactValue_mul_stepsPerUnit {exponent count : Nat} (h : IsRoundedFloat x w)
    (rounded : Binary64.IsSpacingCount (x * stepsPerUnit) exponent count) :
    exactValue w * stepsPerUnit = (count * twoTo exponent : Nat) := by
  obtain ⟨_, _, other, small, rfl⟩ := h
  rw [other.exactValue_compose small, rounded.mul_twoTo_eq other, Nat.cast_mul]

/-- **The float of a rounded count is a nearest one.** In spacings the count is nearer than any
other whole number. -/
theorem isNearestFloat (h : IsRoundedFloat x w) : IsNearestFloat x w := by
  obtain ⟨exponent, count, rounded, small, rfl⟩ := h
  have unit := stepsPerUnit_pos
  have width := cast_twoTo_pos exponent
  refine ⟨Binary64.isFinite_ofBits small, fun u other => le_of_mul_le_mul_right ?_ unit⟩
  obtain ⟨c, near⟩ := Binary64.exists_spacings_near rounded.nonneg rounded.wide other
  have in_steps (y : ℚ) : |x - y| * stepsPerUnit = |x * stepsPerUnit - y * stepsPerUnit| := by
    rw [← sub_mul, abs_mul, abs_of_pos unit]
  have nearest := rounded.nearest.abs_sub_le_abs_sub c
  calc |x - exactValue _| * stepsPerUnit
    _ = |x * stepsPerUnit / twoTo exponent - (count : ℤ)| * twoTo exponent := by
      rw [in_steps, rounded.exactValue_compose small, abs_div_sub_mul width, Int.cast_natCast]
    _ ≤ |x * stepsPerUnit / twoTo exponent - c| * twoTo exponent :=
      mul_le_mul_of_nonneg_right nearest width.le
    _ ≤ |x - exactValue u| * stepsPerUnit := by
      rwa [in_steps, abs_div_sub_mul width]

end IsRoundedFloat

theorem overflowBound_mul_stepsPerUnit :
    overflowBound * stepsPerUnit = (twoTo 53 - 1 / 2) * twoTo 2045 := by
  rw [overflowBound, mul_assoc, cast_twoTo_mul_stepsPerUnit]

/-- **A quotient is rounded to a float**, unless it is too great. -/
theorem isRoundedFloat_nearest (num : Nat) {den : Nat} (pos : 0 < den)
    (below : (num / den : ℚ) < overflowBound) : IsRoundedFloat (num / den) (nearest num den) := by
  have unit := stepsPerUnit_pos
  have steps : ((num * stepsPerUnit : Nat) / den : ℚ) = num / den * stepsPerUnit := by
    rw [Nat.cast_mul, mul_div_right_comm]
  have rounded := Binary64.isSpacingCount_roundHalfEven (num * stepsPerUnit) pos
  rw [steps] at rounded
  have small := rounded.bits_lt (by
    rw [← overflowBound_mul_stepsPerUnit]
    exact mul_lt_mul_of_pos_right below unit)
  have bits : nearestBits num den = _ := Nat.min_eq_left small.le
  exact ⟨_, _, rounded, small, by rw [nearest, bits]⟩

/-- What is at most half of the smallest positive float is rounded to zero. -/
theorem isRoundedFloat_zero {x : ℚ} (nonneg : 0 ≤ x) (small : x * stepsPerUnit ≤ 1 / 2) :
    IsRoundedFloat x (nearest 0 1) := by
  have steps : 0 ≤ x * stepsPerUnit := mul_nonneg nonneg stepsPerUnit_pos.le
  have width : ((twoTo 0 : Nat) : ℚ) = 1 := by rw [twoTo_zero, Nat.cast_one]
  have high : (twoTo 0 : ℚ) ≤ twoTo (53 + 0) := Nat.cast_le.mpr (twoTo_mono (Nat.zero_le _))
  have rounded : Binary64.IsSpacingCount (x * stepsPerUnit) 0 0 := by
    refine ⟨steps, .inl rfl, by linarith, ?_, fun _ => Even.zero⟩
    rw [width, div_one, Nat.cast_zero, Int.cast_zero, sub_zero, abs_of_nonneg steps]
    exact small
  have bits : nearestBits 0 1 = 0 * twoTo 52 + 0 := by decide +kernel
  exact ⟨0, 0, rounded, by decide, by rw [nearest, bits]⟩

/-! ## Decimals -/

theorem digitsValue_append (s t : List Char) :
    digitsValue (s ++ t) = tenTo t.length * digitsValue s + digitsValue t := by
  rw [digitsValue, Nat.ofDigitChars_append, Nat.ofDigitChars_eq_ofDigitChars_zero]
  rfl

theorem digitsValue_cons (c : Char) (s : List Char) :
    digitsValue (c :: s) = tenTo s.length * (c.toNat - '0'.toNat) + digitsValue s := by
  have first : digitsValue [c] = c.toNat - '0'.toNat := Nat.zero_add _
  rw [← List.singleton_append, digitsValue_append, first]

/-- Zeros in front do not count. -/
theorem digitsValue_dropZeros (s : List Char) :
    digitsValue (s.dropWhile (· == '0')) = digitsValue s := by
  induction s with
  | nil => rfl
  | cons c s ih =>
    rw [List.dropWhile_cons]
    split
    · next zero =>
      obtain rfl := beq_iff_eq.mp zero
      rw [ih, digitsValue_cons, Nat.sub_self, Nat.mul_zero, Nat.zero_add]
    · rfl

theorem digitsValue_lt {s : List Char} (digits : ∀ c ∈ s, c.isDigit = true) :
    digitsValue s < tenTo s.length := by
  induction s with
  | nil => exact Nat.one_pos
  | cons c s ih =>
    have less := ih fun d hd => digits d (List.mem_cons_of_mem c hd)
    have digit : c.toNat ≤ '9'.toNat :=
      (Char.isDigit_iff_toNat.mp (digits c List.mem_cons_self)).2
    have nine : c.toNat - '0'.toNat + 1 ≤ 10 := Nat.succ_le_succ (Nat.sub_le_sub_right digit _)
    calc digitsValue (c :: s)
      _ < tenTo s.length * (c.toNat - '0'.toNat) + tenTo s.length := by
        rw [digitsValue_cons]
        exact Nat.add_lt_add_left less _
      _ ≤ tenTo s.length * 10 := Nat.mul_le_mul_left _ nine
      _ = tenTo (c :: s).length := (tenTo_succ s.length).symm

theorem le_digitsValue {c : Char} (s : List Char) (digit : c.isDigit = true) (ne : c ≠ '0') :
    tenTo s.length ≤ digitsValue (c :: s) := by
  have zero : '0'.toNat ≤ c.toNat := (Char.isDigit_iff_toNat.mp digit).1
  have one : 1 ≤ c.toNat - '0'.toNat := by
    have ne' : c.toNat ≠ '0'.toNat := fun same => ne (Char.toNat_inj.mp same)
    omega
  rw [digitsValue_cons]
  exact (Nat.le_mul_of_pos_right _ one).trans (Nat.le_add_right _ _)

theorem cast_tenTo (n : Nat) : (tenTo n : ℚ) = 10 ^ n := by
  rw [tenTo, Nat.pow_eq, Nat.cast_pow, Nat.cast_ofNat]

theorem cast_tenTo_pos (n : Nat) : (0 : ℚ) < tenTo n :=
  Nat.cast_pos.mpr (tenTo_pos n)

/-- A power of ten is one or divides one. -/
theorem zpow_ten_eq_div (n : ℤ) : (10 : ℚ) ^ n = tenTo n.toNat / tenTo (-n).toNat := by
  rw [cast_tenTo, cast_tenTo, ← zpow_natCast, ← zpow_natCast, ← zpow_sub₀ (by norm_num)]
  congr 1
  omega

namespace Literal

variable (l : Literal)

/-- The rational number that an unsigned decimal denotes. -/
def number : ℚ :=
  digitsValue l.digits * 10 ^ l.scale

/-- The digits of a decimal from the first one on that is not zero. -/
def significant : List Char :=
  l.digits.dropWhile (· == '0')

theorem number_eq : l.number = digitsValue l.significant * 10 ^ l.scale := by
  rw [number, significant, digitsValue_dropZeros]

theorem number_nonneg : 0 ≤ l.number :=
  mul_nonneg (Nat.cast_nonneg _) (zpow_nonneg (by norm_num) _)

/-- The desk divides by a power of ten, or multiplies by one. -/
theorem number_eq_div :
    l.number = (digitsValue l.significant * tenTo l.scale.toNat : Nat) /
      (tenTo (-l.scale).toNat : Nat) := by
  rw [number_eq, zpow_ten_eq_div, Nat.cast_mul, mul_div_assoc]

section Digits

variable {l} (digits : ∀ c ∈ l.digits, c.isDigit = true)
include digits

theorem isDigit_of_mem_significant : ∀ c ∈ l.significant, c.isDigit = true :=
  fun c hc => digits c ((List.dropWhile_sublist _).subset hc)

/-- The place of the first digit bounds a decimal from above. -/
theorem number_lt : l.number < 10 ^ (l.significant.length + l.scale) := by
  have ten : (0 : ℚ) < 10 := by norm_num
  have less := digitsValue_lt (isDigit_of_mem_significant digits)
  rw [number_eq, zpow_add₀ ten.ne', zpow_natCast, ← cast_tenTo]
  exact mul_lt_mul_of_pos_right (Nat.cast_lt.mpr less) (zpow_pos ten _)

/-- The first digit, which is not zero, bounds it from below. -/
theorem le_number (ne : l.significant ≠ []) :
    10 ^ (l.significant.length + l.scale - 1) ≤ l.number := by
  have ten : (0 : ℚ) < 10 := by norm_num
  obtain ⟨first, rest, eq⟩ := List.exists_cons_of_ne_nil ne
  have digit : first.isDigit = true :=
    isDigit_of_mem_significant digits first (eq ▸ List.mem_cons_self)
  have not_zero : first ≠ '0' := by
    have head := List.head?_dropWhile_not (· == '0') l.digits
    rw [← significant, eq] at head
    exact beq_eq_false_iff_ne.mp head
  have places : (l.significant.length + l.scale - 1 : ℤ) = rest.length + l.scale := by
    rw [eq, List.length_cons]
    push_cast
    ring
  rw [number_eq, places, eq, zpow_add₀ ten.ne', zpow_natCast, ← cast_tenTo]
  exact mul_le_mul_of_nonneg_right (Nat.cast_le.mpr (le_digitsValue rest digit not_zero))
    (zpow_pos ten _).le

end Digits

/-- The decimals that the desk takes for zero are less than half a step. -/
theorem number_mul_stepsPerUnit_le {l : Literal} (digits : ∀ c ∈ l.digits, c.isDigit = true)
    (small : l.significant = [] ∨ l.significant.length + l.scale < -exponentBound) :
    l.number * stepsPerUnit ≤ 1 / 2 := by
  rcases small with none | far
  · have zero : digitsValue [] = 0 := rfl
    rw [number_eq, none, zero, Nat.cast_zero, zero_mul, zero_mul]
    norm_num
  · have unit : (0 : ℚ) ≤ stepsPerUnit := Nat.cast_nonneg _
    have half : 2 * stepsPerUnit ≤ tenTo 401 := by decide +kernel
    have half : 2 * (stepsPerUnit : ℚ) ≤ tenTo 401 := by exact_mod_cast half
    have places : l.significant.length + l.scale ≤ -((401 : Nat) : ℤ) := Int.le_sub_one_of_lt far
    have below : l.number ≤ (tenTo 401 : ℚ)⁻¹ := by
      calc l.number
        _ ≤ 10 ^ (l.significant.length + l.scale) := (number_lt digits).le
        _ ≤ 10 ^ (-((401 : Nat) : ℤ)) := zpow_le_zpow_right₀ (by norm_num) places
        _ = (tenTo 401 : ℚ)⁻¹ := by rw [zpow_neg, zpow_natCast, cast_tenTo]
    calc l.number * stepsPerUnit
      _ ≤ (tenTo 401 : ℚ)⁻¹ * stepsPerUnit := mul_le_mul_of_nonneg_right below unit
      _ ≤ 1 / 2 := by
        rw [inv_mul_le_iff₀ (Nat.cast_pos.mpr (tenTo_pos 401))]
        linarith

/-- The decimals that the desk takes for an infinity are not below the bound. -/
theorem overflowBound_le_number {l : Literal} (digits : ∀ c ∈ l.digits, c.isDigit = true)
    (ne : l.significant ≠ []) (great : exponentBound < l.significant.length + l.scale) :
    overflowBound ≤ l.number := by
  have bound : twoTo 1024 ≤ tenTo 400 := by decide +kernel
  have places : ((400 : Nat) : ℤ) ≤ l.significant.length + l.scale - 1 := Int.le_sub_one_of_lt great
  have width : (0 : ℚ) ≤ twoTo 971 := Nat.cast_nonneg _
  calc overflowBound
    _ ≤ twoTo 53 * twoTo 971 := mul_le_mul_of_nonneg_right (by linarith) width
    _ = twoTo 1024 := by rw [← Nat.cast_mul, ← twoTo_add]
    _ ≤ tenTo 400 := Nat.cast_le.mpr bound
    _ = 10 ^ ((400 : Nat) : ℤ) := by rw [zpow_natCast, cast_tenTo]
    _ ≤ 10 ^ (l.significant.length + l.scale - 1) := zpow_le_zpow_right₀ (by norm_num) places
    _ ≤ l.number := le_number digits ne

/-- **A decimal is rounded to a float**, unless it is too great. -/
theorem isRoundedFloat_value {l : Literal} (digits : ∀ c ∈ l.digits, c.isDigit = true)
    (below : l.number < overflowBound) : IsRoundedFloat l.number l.value := by
  by_cases small : l.significant = [] ∨ l.significant.length + l.scale < -exponentBound
  · have value : l.value = nearest 0 1 := if_pos small
    rw [value]
    exact isRoundedFloat_zero l.number_nonneg (number_mul_stepsPerUnit_le digits small)
  · have not_great : ¬exponentBound < l.significant.length + l.scale := fun great =>
      below.not_ge (overflowBound_le_number digits (fun none => small (.inl none)) great)
    have value : l.value = nearest (digitsValue l.significant * tenTo l.scale.toNat)
        (tenTo (-l.scale).toNat) := (if_neg small).trans (if_neg not_great)
    rw [number_eq_div] at below
    rw [value, number_eq_div]
    exact isRoundedFloat_nearest _ (tenTo_pos _) below

/-- **A decimal is read as a nearest float**, unless it is too great. -/
theorem isNearestFloat_value {l : Literal} (digits : ∀ c ∈ l.digits, c.isDigit = true)
    (below : l.number < overflowBound) : IsNearestFloat l.number l.value :=
  (isRoundedFloat_value digits below).isNearestFloat

end Literal

end DeskCalculator.Number
