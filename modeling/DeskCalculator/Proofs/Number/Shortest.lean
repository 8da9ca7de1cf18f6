import DeskCalculator.Number.Shortest
import DeskCalculator.Proofs.Evaluation.Readback

/-!
# The shortest decimal of a float

What is written by the shortest digits of a float reads back as that float. The interval of the
decimals that round to it is given by its two neighbours, and it is wide enough for a decimal of
seventeen digits, so that the search for the shortest one always succeeds. Different floats are
therefore written differently.

## Main definitions

* `Decimal.value`: the rational number that a decimal denotes

## Main results

* `isSpacingCount_of_readsBack`: a decimal in the interval of a float is rounded to that float
* `readsBack_shortest`: seventeen digits are always enough
* `plainText_reread`: the digits of a finite float read back
* `plainText_injective`: floats that are written alike stand for the same
-/

namespace DeskCalculator.Number

/-- The rational number that a decimal denotes. -/
def Decimal.value (d : Decimal) : ℚ :=
  d.coefficient * 10 ^ d.exponent

theorem Decimal.value_nonneg (d : Decimal) : 0 ≤ d.value :=
  mul_nonneg (Nat.cast_nonneg _) (zpow_nonneg (by norm_num) _)

/-! ## The interval of a float -/

section Interval

variable {steps : Nat} {d : Decimal}

theorem spacing_le (pos : 0 < steps) : spacing steps ≤ steps :=
  (twoTo_mono (Nat.sub_le _ _)).trans (Nat.log2_self_le pos.ne')

theorem lowerReach_le_upperReach (steps : Nat) : lowerReach steps ≤ upperReach steps := by
  rw [lowerReach, upperReach]
  split <;> omega

/-- The interval in rational numbers of quarters of a step. -/
theorem readsBack_iff : readsBack steps d = true ↔
    if steps / spacing steps % 2 = 0 then
      ((4 * steps - lowerReach steps : Nat) : ℚ) ≤ 4 * (d.value * stepsPerUnit) ∧
        4 * (d.value * stepsPerUnit) ≤ (4 * steps + upperReach steps : Nat)
    else
      ((4 * steps - lowerReach steps : Nat) : ℚ) < 4 * (d.value * stepsPerUnit) ∧
        4 * (d.value * stepsPerUnit) < (4 * steps + upperReach steps : Nat) := by
  have below := cast_tenTo_pos (-d.exponent).toNat
  have quotient : 4 * (d.value * stepsPerUnit) =
      (4 * d.coefficient * stepsPerUnit * tenTo d.exponent.toNat : Nat) /
        tenTo (-d.exponent).toNat := by
    rw [Decimal.value, zpow_ten_eq_div]
    generalize stepsPerUnit = unit
    push_cast
    ring
  rw [quotient, le_div_iff₀ below, div_le_iff₀ below, lt_div_iff₀ below, div_lt_iff₀ below, readsBack]
  norm_cast
  split <;> simp only [Bool.and_eq_true, decide_eq_true_eq]

/-- How far a decimal in the interval can be from the float; an end of the interval belongs to it only
if the last bit of the float is zero. -/
theorem bounds_of_readsBack (h : readsBack steps d = true) :
    let a := d.value * stepsPerUnit
    4 * steps - lowerReach steps ≤ 4 * a ∧ 4 * a ≤ 4 * steps + 2 * spacing steps ∧
      (steps / spacing steps % 2 ≠ 0 →
        4 * steps - lowerReach steps < 4 * a ∧ 4 * a < 4 * steps + 2 * spacing steps) := by
  intro a
  have low : (4 * steps - lowerReach steps : ℚ) ≤ (4 * steps - lowerReach steps : Nat) := by
    rw [sub_le_iff_le_add]
    exact_mod_cast le_tsub_add
  have high : ((4 * steps + upperReach steps : Nat) : ℚ) = 4 * steps + 2 * spacing steps := by
    rw [upperReach]
    push_cast
    rfl
  have inside := readsBack_iff.mp h
  rw [high] at inside
  split at inside
  · next even => exact ⟨low.trans inside.1, inside.2, fun odd => absurd even odd⟩
  · exact ⟨low.trans inside.1.le, inside.2.le, fun _ => ⟨low.trans_lt inside.1, inside.2⟩⟩

/-- A decimal that is nearer to a float than both ends of its interval lies in it. -/
theorem readsBack_of_near (pos : 0 < steps)
    (near : 4 * |d.value * stepsPerUnit - steps| < lowerReach steps) : readsBack steps d = true := by
  have reach : lowerReach steps ≤ 4 * steps := by
    have shorter := lowerReach_le_upperReach steps
    have size := spacing_le pos
    rw [upperReach] at shorter
    omega
  have upper : (lowerReach steps : ℚ) ≤ upperReach steps :=
    Nat.cast_le.mpr (lowerReach_le_upperReach steps)
  rw [readsBack_iff, Nat.cast_sub reach, Nat.cast_add]
  push_cast
  obtain ⟨below, above⟩ := abs_le.mp (le_refl |d.value * stepsPerUnit - steps|)
  split <;> constructor <;> linarith

/-- A number of steps within half a spacing of a whole number of spacings is rounded to it, on a tie
if that number is even. -/
theorem isNearestEven_div {a : ℚ} {exponent count : Nat}
    (near : |a - count * twoTo exponent| ≤ twoTo exponent / 2)
    (tie : count % 2 ≠ 0 → |a - count * twoTo exponent| < twoTo exponent / 2) :
    IsNearestEven (a / twoTo exponent) count := by
  have width := cast_twoTo_pos exponent
  have distance := abs_div_sub_mul width a count
  refine ⟨?_, fun half => ?_⟩
  · rw [Int.cast_natCast]
    refine le_of_mul_le_mul_right ?_ width
    rw [distance]
    linarith
  · rw [Int.even_coe_nat, Nat.even_iff]
    by_contra odd
    have less := tie odd
    rw [Int.cast_natCast] at half
    rw [← distance, half] at less
    linarith

theorem one_lt_twoTo {n : Nat} (pos : 0 < n) : 1 < twoTo n :=
  Nat.one_lt_pow pos.ne' (by decide)

/-- Whole numbers of spacings that differ are a spacing apart. -/
theorem add_spacing_le_of_ne {count : Nat} (whole : count * spacing steps = steps)
    (wide : twoTo (52 + spacingExponent steps) ≤ steps) (ne : steps ≠ twoTo 52 * spacing steps) :
    twoTo (52 + spacingExponent steps) + spacing steps ≤ steps := by
  rw [twoTo_add] at wide ⊢
  have more : twoTo 52 < count := by
    refine Nat.lt_of_mul_lt_mul_right (a := spacing steps) ?_
    rw [whole]
    exact lt_of_le_of_ne wide ne.symm
  calc twoTo 52 * twoTo (spacingExponent steps) + spacing steps
    _ = (twoTo 52 + 1) * spacing steps := (Nat.succ_mul _ _).symm
    _ ≤ count * spacing steps := Nat.mul_le_mul_right _ more
    _ = steps := whole

/-- Within half a spacing of a float, and not below the range of its spacing, what is rounded is
rounded to that float. -/
theorem isSpacingCount_of_near {a : ℚ} {count : Nat} (whole : count * spacing steps = steps)
    (nonneg : 0 ≤ a)
    (wide : spacingExponent steps = 0 ∨ (twoTo (52 + spacingExponent steps) : ℚ) ≤ a)
    (near : |a - steps| ≤ spacing steps / 2)
    (tie : count % 2 ≠ 0 → |a - steps| < spacing steps / 2) :
    Binary64.IsSpacingCount a (spacingExponent steps) count := by
  have whole_cast : (steps : ℚ) = count * twoTo (spacingExponent steps) := by
    rw [← Nat.cast_mul]
    exact congrArg _ whole.symm
  have width : (0 : ℚ) < spacing steps := cast_twoTo_pos _
  have next : steps + spacing steps ≤ twoTo (53 + spacingExponent steps) := by
    have high := (Binary64.spacingExponent_spec steps).2
    rw [twoTo_add] at high ⊢
    have fits : count < twoTo 53 := Nat.lt_of_mul_lt_mul_right (whole.trans_lt high)
    calc steps + spacing steps
      _ = (count + 1) * spacing steps := by rw [Nat.succ_mul, whole]
      _ ≤ twoTo 53 * twoTo (spacingExponent steps) := Nat.mul_le_mul_right _ fits
  have next : (steps + spacing steps : ℚ) ≤ twoTo (53 + spacingExponent steps) := by
    exact_mod_cast next
  refine ⟨nonneg, wide, ?_, ?_⟩
  · have above := (abs_le.mp near).2
    linarith
  · rw [whole_cast] at near tie
    exact isNearestEven_div near tie

/-- Below a power of two the spacing is half as wide, and so many of them are an even number. -/
theorem isSpacingCount_below_power {a : ℚ} {exponent : Nat}
    (below : a < twoTo 53 * twoTo exponent)
    (near : twoTo 53 * twoTo exponent - a ≤ (twoTo exponent : ℚ) / 2) :
    Binary64.IsSpacingCount a exponent (twoTo 53) := by
  have width := cast_twoTo_pos exponent
  have double : (twoTo 53 : ℚ) = twoTo 52 * 2 := by exact_mod_cast twoTo_succ 52
  have lower : (twoTo (52 + exponent) : ℚ) ≤ a := by
    have one : (1 : ℚ) ≤ twoTo 52 := by exact_mod_cast twoTo_pos 52
    have more := mul_le_mul_of_nonneg_right one width.le
    rw [twoTo_add, Nat.cast_mul]
    rw [double] at near
    linarith
  have distance : |a - (twoTo 53 : Nat) * twoTo exponent| = twoTo 53 * twoTo exponent - a := by
    rw [abs_sub_comm, abs_of_pos (sub_pos.mpr below)]
  refine ⟨(Nat.cast_nonneg _).trans lower, .inr lower, ?_, isNearestEven_div ?_ ?_⟩
  · rw [twoTo_add, Nat.cast_mul]
    exact below
  · rw [distance]
    exact near
  · intro odd
    exact absurd (by rw [twoTo_succ 52, Nat.mul_mod_left]) odd

/-- At a power of two: the spacing below it is half of the one above. -/
theorem exists_isSpacingCount_of_power {a : ℚ}
    (power : steps = twoTo 52 * spacing steps ∧ 1 < spacing steps) (below : a < steps)
    (near : (steps : ℚ) - a ≤ spacing steps / 4) :
    ∃ exponent count, Binary64.IsSpacingCount a exponent count ∧ count * twoTo exponent = steps := by
  obtain ⟨exponent, eq⟩ : ∃ exponent, spacingExponent steps = exponent + 1 :=
    Nat.exists_eq_succ_of_ne_zero fun zero => by simp [spacing, zero, twoTo] at power
  have double : spacing steps = twoTo exponent * 2 := by rw [spacing, eq, twoTo_succ]
  have size : twoTo 53 * twoTo exponent = steps := by
    rw [power.1, double, twoTo_succ 52]
    ring
  have size_cast : (twoTo 53 * twoTo exponent : ℚ) = steps := by exact_mod_cast size
  have double_cast : (spacing steps : ℚ) = twoTo exponent * 2 := by exact_mod_cast double
  refine ⟨exponent, twoTo 53, isSpacingCount_below_power ?_ ?_, size⟩
  · rw [size_cast]
    exact below
  · rw [size_cast]
    linarith

/-- What is at most half a spacing below a float does not leave the range of its spacing, if the
float is not the least one there. -/
theorem twoTo_le_of_near_below {a : ℚ} {count : Nat} (whole : count * spacing steps = steps)
    (power : ¬ (steps = twoTo 52 * spacing steps ∧ 1 < spacing steps))
    (near : (steps : ℚ) - a ≤ spacing steps / 2) :
    spacingExponent steps = 0 ∨ (twoTo (52 + spacingExponent steps) : ℚ) ≤ a := by
  rcases (Binary64.spacingExponent_spec steps).1 with zero | wide
  · exact .inl zero
  rcases Nat.eq_zero_or_pos (spacingExponent steps) with zero | some
  · exact .inl zero
  have more : twoTo (52 + spacingExponent steps) + spacing steps ≤ steps :=
    add_spacing_le_of_ne whole wide fun same => power ⟨same, one_lt_twoTo some⟩
  have more : (twoTo (52 + spacingExponent steps) + spacing steps : ℚ) ≤ steps := by
    exact_mod_cast more
  exact .inr (by linarith)

/-- **A decimal in the interval of a float is rounded to that float.** -/
theorem isSpacingCount_of_readsBack (multiple : spacing steps ∣ steps)
    (h : readsBack steps d = true) :
    ∃ exponent count, Binary64.IsSpacingCount (d.value * stepsPerUnit) exponent count ∧
      count * twoTo exponent = steps := by
  obtain ⟨lower, upper, strict⟩ := bounds_of_readsBack h
  have nonneg : 0 ≤ d.value * stepsPerUnit := mul_nonneg d.value_nonneg stepsPerUnit_pos.le
  generalize d.value * stepsPerUnit = a at lower upper strict nonneg ⊢
  have whole : steps / spacing steps * spacing steps = steps := Nat.div_mul_cancel multiple
  rcases le_or_gt (steps : ℚ) a with above | below
  · have distance : |a - steps| = a - steps := abs_of_nonneg (sub_nonneg.mpr above)
    have wide := (Binary64.spacingExponent_spec steps).1.imp_right fun wide =>
      (Nat.cast_le.mpr wide).trans above
    refine ⟨_, _, isSpacingCount_of_near whole nonneg wide ?_ fun odd => ?_, whole⟩
    · rw [distance]
      linarith
    · rw [distance]
      linarith [(strict odd).2]
  · have distance : |a - steps| = steps - a := by
      rw [abs_sub_comm, abs_of_pos (sub_pos.mpr below)]
    rw [lowerReach] at lower strict
    split at lower
    · next power => exact exists_isSpacingCount_of_power power below (by linarith)
    · next power =>
      rw [if_neg power] at strict
      push_cast at lower strict
      have near : (steps : ℚ) - a ≤ spacing steps / 2 := by linarith
      have wide := twoTo_le_of_near_below whole power near
      refine ⟨_, _, isSpacingCount_of_near whole nonneg wide ?_ fun odd => ?_, whole⟩
      · rw [distance]
        exact near
      · rw [distance]
        linarith [(strict odd).1]

end Interval

/-! ## Seventeen digits -/

/-- The first digit of a positive quotient stands at its decimal exponent or in front of it. -/
theorem zpow_decimalExponent_le {num den : Nat} (num_pos : 0 < num) (den_pos : 0 < den) :
    (10 : ℚ) ^ decimalExponent num den ≤ num / den := by
  have unit : (0 : ℚ) < den := Nat.cast_pos.mpr den_pos
  rw [decimalExponent, le_div_iff₀ unit]
  split
  · next whole =>
    have quotient : 0 < num / den := Nat.div_pos whole den_pos
    obtain ⟨first, rest, digits, ne⟩ := exists_toDigits_eq_cons quotient
    have digit : first.isDigit = true :=
      Nat.isDigit_of_mem_toDigits (by decide) (by decide) (digits ▸ List.mem_cons_self)
    have lower : tenTo rest.length ≤ num / den := by
      have value : digitsValue (Nat.toDigits 10 (num / den)) = num / den :=
        Nat.ofDigitChars_ten_toDigits
      rw [← value, digits]
      exact le_digitsValue rest digit ne
    have places : ((first :: rest).length : ℤ) - 1 = rest.length := by simp
    rw [digits, places, zpow_natCast, ← cast_tenTo]
    exact_mod_cast (Nat.mul_le_mul_right den lower).trans (Nat.div_mul_le_self num den)
  · have upper : (den - 1) / num < tenTo (Nat.toDigits 10 ((den - 1) / num)).length := by
      have value : digitsValue (Nat.toDigits 10 ((den - 1) / num)) = (den - 1) / num :=
        Nat.ofDigitChars_ten_toDigits
      have digits : ∀ c ∈ Nat.toDigits 10 ((den - 1) / num), c.isDigit = true :=
        fun c => Nat.isDigit_of_mem_toDigits (by decide) (by decide)
      exact value.symm.trans_lt (digitsValue_lt digits)
    generalize (Nat.toDigits 10 ((den - 1) / num)).length = places at upper ⊢
    have covers : den ≤ tenTo places * num := by
      have less := (Nat.div_lt_iff_lt_mul num_pos).mp upper
      omega
    rw [zpow_neg, zpow_natCast, ← cast_tenTo, inv_mul_le_iff₀ (cast_tenTo_pos places)]
    exact_mod_cast covers

/-- The first of the two neighbours is at most half a unit away. -/
theorem exists_neighbours_eq (steps : Nat) (exponent : ℤ) :
    ∃ k rest, neighbours steps exponent = ⟨k, exponent⟩ :: rest ∧
      |steps / stepsPerUnit / 10 ^ exponent - (k : ℚ)| ≤ 1 / 2 := by
  have quotient : (steps / stepsPerUnit / 10 ^ exponent : ℚ) =
      (inUnits steps stepsPerUnit exponent).1 / (inUnits steps stepsPerUnit exponent).2 := by
    have above := cast_tenTo_pos exponent.toNat
    have unit := stepsPerUnit_pos
    rw [zpow_ten_eq_div, inUnits]
    generalize stepsPerUnit = unit at *
    push_cast
    field_simp
  have den_pos : 0 < (inUnits steps stepsPerUnit exponent).2 :=
    Nat.mul_pos (twoTo_pos 1074) (tenTo_pos _)
  rw [quotient, neighbours]
  generalize inUnits steps stepsPerUnit exponent = pair at den_pos ⊢
  obtain ⟨num, den⟩ := pair
  have unit : (0 : ℚ) < den := Nat.cast_pos.mpr den_pos
  have division : (den * (num / den : Nat) + (num % den : Nat) : ℚ) = num := by
    exact_mod_cast Nat.div_add_mod num den
  have half {k : Nat} (near : |(num : ℚ) - k * den| ≤ den / 2) : |(num / den : ℚ) - k| ≤ 1 / 2 := by
    refine le_of_mul_le_mul_right ?_ unit
    rw [abs_div_sub_mul unit]
    linarith
  dsimp only
  split
  · next small =>
    refine ⟨_, _, rfl, half (abs_le.mpr ?_)⟩
    have small : (2 * (num % den : Nat) : ℚ) < den := by exact_mod_cast small
    have nonneg : (0 : ℚ) ≤ (num % den : Nat) := Nat.cast_nonneg _
    constructor <;> linarith
  · next great =>
    refine ⟨_, _, rfl, half (abs_le.mpr ?_)⟩
    have great : (den : ℚ) ≤ 2 * (num % den : Nat) := by exact_mod_cast Nat.not_lt.mp great
    have less : ((num % den : Nat) : ℚ) < den := by exact_mod_cast Nat.mod_lt num den_pos
    push_cast
    constructor <;> linarith

theorem le_lowerReach (steps : Nat) : steps ≤ twoTo 52 * lowerReach steps := by
  have high : steps < twoTo 53 * spacing steps := by
    have bound := (Binary64.spacingExponent_spec steps).2
    rwa [twoTo_add] at bound
  rw [twoTo_succ 52, Nat.mul_right_comm] at high
  rw [lowerReach]
  split
  · next power => exact power.1.le
  · rw [Nat.mul_left_comm, Nat.mul_comm 2]
    exact high.le

/-- The nearer neighbour of seventeen digits lies in the interval: half of its last place is less than
what the `53` bits of a float leave on either side. -/
theorem exists_seventeen_readsBack {steps : Nat} (pos : 0 < steps) :
    ∃ d, (neighbours steps (decimalExponent steps stepsPerUnit - (16 : Nat))).find?
      (readsBack steps) = some d := by
  obtain ⟨k, rest, eq, near⟩ :=
    exists_neighbours_eq steps (decimalExponent steps stepsPerUnit - (16 : Nat))
  have lead : (10 : ℚ) ^ decimalExponent steps stepsPerUnit ≤ steps / stepsPerUnit :=
    zpow_decimalExponent_le pos (twoTo_pos 1074)
  have place : (10 : ℚ) ^ decimalExponent steps stepsPerUnit =
      10 ^ (decimalExponent steps stepsPerUnit - (16 : Nat)) * tenTo 16 := by
    rw [cast_tenTo, ← zpow_natCast, ← zpow_add₀ (by norm_num), Int.sub_add_cancel]
  rw [place] at lead
  generalize decimalExponent steps stepsPerUnit - (16 : Nat) = exponent at eq near lead ⊢
  have unit := stepsPerUnit_pos
  have last : (0 : ℚ) < 10 ^ exponent * stepsPerUnit := mul_pos (zpow_pos (by norm_num) _) unit
  have lead : 10 ^ exponent * stepsPerUnit * tenTo 16 ≤ (steps : ℚ) := by
    rw [mul_right_comm, ← le_div_iff₀ unit]
    exact lead
  have distance : 2 * |(⟨k, exponent⟩ : Decimal).value * stepsPerUnit - steps| ≤
      10 ^ exponent * stepsPerUnit := by
    have scaled := abs_div_sub_mul last steps k
    rw [mul_comm (10 ^ exponent : ℚ), ← div_div] at scaled
    rw [Decimal.value, mul_assoc, mul_comm (10 ^ exponent : ℚ), abs_sub_comm, ← scaled]
    have := mul_le_mul_of_nonneg_right near (mul_comm (10 ^ exponent : ℚ) _ ▸ last.le)
    linarith
  have inside : readsBack steps ⟨k, exponent⟩ = true := by
    refine readsBack_of_near pos ?_
    generalize |(⟨k, exponent⟩ : Decimal).value * stepsPerUnit - steps| = far at distance ⊢
    generalize (10 ^ exponent * stepsPerUnit : ℚ) = place at lead distance
    have reach : (steps : ℚ) ≤ twoTo 52 * lowerReach steps := by exact_mod_cast le_lowerReach steps
    have some : (0 : ℚ) < lowerReach steps := by
      have pos : (0 : ℚ) < steps := Nat.cast_pos.mpr pos
      exact pos_of_mul_pos_right (pos.trans_le reach) (cast_twoTo_pos 52).le
    have digits : (2 * twoTo 52 : ℚ) < tenTo 16 := by
      have : 2 * twoTo 52 < tenTo 16 := by decide
      exact_mod_cast this
    have less := mul_lt_mul_of_pos_right digits some
    refine lt_of_mul_lt_mul_right ?_ (cast_tenTo_pos 16).le
    have more := mul_le_mul_of_nonneg_right distance (cast_tenTo_pos 16).le
    linarith
  exact ⟨_, by rw [eq, List.find?_cons, inside]⟩

/-- **Seventeen digits are always enough**: the search finds a decimal, which lies in the interval. -/
theorem readsBack_shortest {steps : Nat} (pos : 0 < steps) :
    readsBack steps (shortest steps) = true := by
  rw [shortest]
  cases search : (List.range 17).findSome? fun more : Nat =>
      (neighbours steps (decimalExponent steps stepsPerUnit - more)).find? (readsBack steps) with
  | none =>
    obtain ⟨d, found⟩ := exists_seventeen_readsBack pos
    have none := List.findSome?_eq_none_iff.mp search 16 (List.mem_range.mpr (by decide))
    exact absurd (found.symm.trans none) (by simp)
  | some d =>
    obtain ⟨more, -, found⟩ := List.exists_of_findSome?_eq_some search
    exact List.find?_some found

/-! ## The text of a float -/

theorem Decimal.exists_text_eq (d : Decimal) :
    ∃ k places, d.text = positional k places ∧ (k : ℚ) / 10 ^ places = d.value := by
  rw [Decimal.text, Decimal.value, zpow_ten_eq_div]
  split
  · next whole =>
    have places : (-d.exponent).toNat = 0 := by omega
    exact ⟨_, _, rfl, by rw [places, tenTo_zero]; push_cast; ring⟩
  · next fraction =>
    have places : d.exponent.toNat = 0 := by omega
    exact ⟨_, _, rfl, by rw [places, tenTo_zero, cast_tenTo]; push_cast; ring⟩

namespace PlainDecimal

variable {p : PlainDecimal}

theorem number_literal_eq_abs : p.literal.number = |p.value| := by
  rw [p.value_eq]
  split
  · rw [neg_one_mul, abs_neg, abs_of_nonneg p.literal.number_nonneg]
  · rw [one_mul, abs_of_nonneg p.literal.number_nonneg]

/-- What a plain decimal denotes is, without its sign, rounded to so many steps. -/
def RoundsToSteps (p : PlainDecimal) (steps : Nat) : Prop :=
  ∃ exponent count, Binary64.IsSpacingCount (|p.value| * stepsPerUnit) exponent count ∧
    count * twoTo exponent = steps

theorem RoundsToSteps.unique {m n : Nat} (h : p.RoundsToSteps m) (other : p.RoundsToSteps n) :
    m = n := by
  obtain ⟨_, _, rounded, rfl⟩ := h
  obtain ⟨_, _, rounded', rfl⟩ := other
  exact rounded.mul_twoTo_eq rounded'

theorem roundsToSteps_zero (zero : p.value = 0) : p.RoundsToSteps 0 := by
  refine ⟨0, 0, ?_, Nat.zero_mul _⟩
  rw [zero, abs_zero, zero_mul]
  exact ⟨le_rfl, .inl rfl, cast_twoTo_pos _, by simp, fun _ => Even.zero⟩

end PlainDecimal

/-- The spacing of a float divides its steps. -/
theorem spacing_dvd_stepsOfBits (bits : Nat) :
    spacing (Binary64.stepsOfBits bits) ∣ Binary64.stepsOfBits bits := by
  rcases Binary64.dvd_or_lt_stepsOfBits bits (spacingExponent (Binary64.stepsOfBits bits)) with
    multiple | below
  · exact multiple
  · rcases (Binary64.spacingExponent_spec (Binary64.stepsOfBits bits)).1 with zero | above
    · rw [spacing, zero]
      exact one_dvd _
    · exact absurd below above.not_gt

theorem PlainDecimal.abs_value_ofUnits (negative : Bool) (k places : Nat) :
    |(ofUnits (if negative then -k else k) places).value| = k / 10 ^ places := by
  have nonneg : (0 : ℚ) ≤ k / 10 ^ places := by positivity
  rw [value_ofUnits]
  cases negative with
  | false => simpa using abs_of_nonneg nonneg
  | true => simpa [neg_div] using abs_of_nonneg nonneg

/-- The text of a finite float is that of a plain decimal with its sign, which is rounded to its
steps. -/
theorem exists_plainText_eq {v : Float} (finite : v.isFinite = true) :
    ∃ p : PlainDecimal, plainText v = p.text ∧
      p.negative = Binary64.signField v.toBits.toNat ∧
      p.RoundsToSteps (Binary64.stepsOfBits v.toBits.toNat) := by
  rw [plainText, Binary64.ofFloat_of_finite finite]
  have multiple := spacing_dvd_stepsOfBits v.toBits.toNat
  generalize Binary64.stepsOfBits v.toBits.toNat = steps at multiple ⊢
  generalize Binary64.signField v.toBits.toNat = negative
  dsimp only
  rcases Nat.eq_zero_or_pos steps with rfl | pos
  · cases negative with
    | false =>
      refine ⟨.ofUnits 0 0, rfl, rfl, PlainDecimal.roundsToSteps_zero ?_⟩
      rw [PlainDecimal.value_ofUnits, Int.cast_zero, zero_div]
    | true =>
      exact ⟨.signedZero, rfl, rfl, PlainDecimal.roundsToSteps_zero PlainDecimal.value_signedZero⟩
  · obtain ⟨k, places, text, value⟩ := (shortest steps).exists_text_eq
    let p := PlainDecimal.ofUnits (if negative then -k else k) places
    have rounds : p.RoundsToSteps steps := by
      rw [PlainDecimal.RoundsToSteps, PlainDecimal.abs_value_ofUnits, value]
      exact isSpacingCount_of_readsBack multiple (readsBack_shortest pos)
    have some : k ≠ 0 := by
      rintro rfl
      have zero : p.value = 0 := abs_eq_zero.mp (by rw [PlainDecimal.abs_value_ofUnits]; simp)
      exact pos.ne (rounds.unique (PlainDecimal.roundsToSteps_zero zero)).symm
    refine ⟨p, ?_, ?_, rounds⟩
    · rw [PlainDecimal.text_ofUnits, if_neg pos.ne', text]
      simp [some]
    · cases negative with
      | false => rfl
      | true => exact decide_eq_true (by simpa using Nat.pos_of_ne_zero some)

/-- **The digits of a finite float read back**, as the number for which they were written. -/
theorem plainText_reread {v : Float} (finite : v.isFinite = true) :
    ∃ w, readFloat? (plainText v) = some w ∧ w.isFinite = true ∧ exactValue w = exactValue v := by
  obtain ⟨p, text, sign, exponent, count, rounded, steps⟩ := exists_plainText_eq finite
  have unit := stepsPerUnit_pos
  have below : |p.value| < overflowBound := by
    rw [← mul_lt_mul_iff_of_pos_right unit, overflowBound_mul_stepsPerUnit]
    refine rounded.lt_of_mul_twoTo_le ?_
    rw [steps]
    exact Binary64.stepsOfBits_le (Binary64.exponentField_ne_of_finite finite)
  refine ⟨p.reading, text ▸ p.readFloat?_text, (p.isNearestFloat_reading below).finite, ?_⟩
  have literal : IsRoundedFloat |p.value| p.literal.value := by
    rw [← p.number_literal_eq_abs] at below ⊢
    exact Literal.isRoundedFloat_value p.isDigit_of_mem_literal below
  have size := literal.exactValue_mul_stepsPerUnit rounded
  refine mul_right_cancel₀ unit.ne' ?_
  rw [Binary64.exactValue_mul_stepsPerUnit finite, ← sign, ← steps, PlainDecimal.reading,
    p.value_numeral]
  split
  · rw [exactValue_neg literal.isNearestFloat.finite, neg_mul, size, neg_one_mul]
  · rw [size, one_mul]

theorem ofFloat_of_not_finite {v : Float} (infinite : v.isFinite = false) :
    Binary64.ofFloat v = .nan ∨ ∃ negative, Binary64.ofFloat v = .infinite negative := by
  have top : Binary64.exponentField v.toBits.toNat = 2047 := by
    by_contra not_top
    have finite := Binary64.isFinite_unpack (b := v.toModel.toBits.toBitVec) not_top
    exact absurd (infinite.symm.trans finite) (by decide)
  have field : Binary64.ofFloat v =
      if Binary64.fractionField v.toBits.toNat = 0 then
        .infinite (Binary64.signField v.toBits.toNat)
      else .nan := if_pos top
  rw [field]
  split
  · exact .inr ⟨_, rfl⟩
  · exact .inl rfl

/-- What is written reads back as a finite float exactly if it was written for one. -/
theorem isFinite_reread (v : Float) :
    (readFloat? (plainText v)).map Float.isFinite = some v.isFinite := by
  cases finite : v.isFinite with
  | true =>
    obtain ⟨w, read, finite', -⟩ := plainText_reread finite
    rw [read, Option.map_some, finite']
  | false =>
    rw [plainText]
    rcases ofFloat_of_not_finite finite with nan | ⟨negative, infinity⟩
    · rw [nan]
      decide +kernel
    · rw [infinity]
      cases negative <;> decide +kernel

/-- **Floats that are written alike stand for the same.** -/
theorem plainText_injective {u v : Float} (same : plainText u = plainText v) :
    Binary64.ofFloat u = Binary64.ofFloat v := by
  have finite : u.isFinite = v.isFinite := by
    have read := isFinite_reread u
    rw [same, isFinite_reread v] at read
    exact (Option.some.inj read).symm
  cases finite_v : v.isFinite with
  | true =>
    have finite_u := finite.trans finite_v
    obtain ⟨p, text, sign, rounds⟩ := exists_plainText_eq finite_u
    obtain ⟨q, text', sign', rounds'⟩ := exists_plainText_eq finite_v
    obtain rfl := PlainDecimal.text_injective (text.symm.trans (same.trans text'))
    rw [Binary64.ofFloat_of_finite finite_u, Binary64.ofFloat_of_finite finite_v, ← sign, ← sign',
      rounds.unique rounds']
  | false =>
    rw [plainText, plainText] at same
    rcases ofFloat_of_not_finite (finite.trans finite_v) with nan | ⟨negative, infinity⟩ <;>
      rcases ofFloat_of_not_finite finite_v with nan' | ⟨negative', infinity'⟩
    · rw [nan, nan']
    · rw [nan, infinity'] at same
      cases negative' <;> exact absurd same (by decide)
    · rw [infinity, nan'] at same
      cases negative <;> exact absurd same (by decide)
    · rw [infinity, infinity'] at same ⊢
      cases negative <;> cases negative' <;> first | rfl | exact absurd same (by decide)

end DeskCalculator.Number
