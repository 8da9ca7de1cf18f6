import DeskCalculator.Display
import DeskCalculator.Proofs.Number.Exact
import DeskCalculator.Proofs.Number.Nearest
import DeskCalculator.Proofs.Number.Plain

/-!
# What the display shows

A finite value is shown as the canonical decimal of its exact value, rounded to the number of places
that the desk shows. So the text of a value is fixed by its rounded number alone: neither the sign of
a zero nor what was rounded off leaves a trace.

## Main results

* `Display.trimFraction_fixed`: the trimming takes the zeros behind the point and no others
* `Display.text_eq_of_nearest`: the text of a value whose rounded number is known
* `Display.text_canonical`: the text is the canonical decimal of the rounded value
-/

namespace DeskCalculator

open Number

namespace Display

/-! ## What the trimming leaves -/

section Trim

variable (size places : Nat)

/-- A point behind which nothing is left goes with the zeros. -/
theorem dropEndPoint_eq {front fraction : List Char} (no_point : '.' ∉ front)
    (digits : ∀ c ∈ fraction, c.isDigit = true) :
    Text.dropEndWhile (· == '.') (front ++ '.' :: fraction) = front ++ pointed fraction := by
  cases fraction with
  | nil =>
    rw [Text.dropEndWhile_concat, if_pos (beq_self_eq_true '.'), pointed, List.append_nil]
    refine Text.dropEndWhile_eq_self fun c hc => beq_eq_false_iff_ne.mpr ?_
    rintro rfl
    exact no_point (List.mem_of_getLast? hc)
  | cons first rest =>
    refine Text.dropEndWhile_eq_self fun c hc => beq_eq_false_iff_ne.mpr ?_
    rintro rfl
    rw [List.getLast?_append_of_ne_nil _ (List.cons_ne_nil _ _), List.getLast?_cons_cons] at hc
    exact absurd (digits '.' (List.mem_of_getLast? hc)) (by decide)

/-- The trimming takes the zeros behind the point, and the point behind a whole part, but no zero of
a whole part. -/
theorem trimFraction_fixed (sign : List Char) (no_point : '.' ∉ sign) :
    trimFraction (sign ++ fixed size places) = sign ++ positional size places := by
  have whole : '.' ∉ sign ++ Nat.toDigits 10 (size / tenTo places) := by
    rw [List.mem_append, not_or]
    refine ⟨no_point, fun point => ?_⟩
    exact absurd (Nat.isDigit_of_mem_toDigits (by decide) (by decide) point) (by decide)
  rw [positional_eq, ← List.append_assoc]
  rcases Nat.eq_zero_or_pos places with rfl | some_places
  · rw [fixed_zero, trimFraction, if_neg whole, fractionDigits_zero]
    exact (List.append_nil _).symm
  · rw [fixed_of_pos some_places, trimFraction, if_pos (by simp), ← List.append_assoc,
      Text.dropEndWhile_append_cons (by decide)]
    exact dropEndPoint_eq whole isDigit_of_mem_fractionDigits

end Trim

variable {v : Float} {digits : Nat}

/-- The text of a finite value: the sign stays unless nothing is left of the value. -/
theorem text_of_finite {negative : Bool} {steps : Nat}
    (reading : Binary64.ofFloat v = .finite negative steps) :
    text v digits = (PlainDecimal.ofUnits (if negative then -roundToPlaces steps digits
      else roundToPlaces steps digits) digits).text := by
  rw [PlainDecimal.text_ofUnits]
  simp only [text, reading]
  generalize roundToPlaces steps digits = size
  cases negative with
  | false =>
    have kept : trimFraction (fixed size digits) = positional size digits :=
      trimFraction_fixed size digits [] List.not_mem_nil
    have unsigned : positional size digits ≠ ['-', '0'] := by
      intro same
      apply PlainDecimal.text_ne_of_sign (PlainDecimal.negative_ofUnits size digits)
      rw [PlainDecimal.text_ofUnits_natCast, same]
    rw [if_neg Bool.false_ne_true, kept, if_neg unsigned, Bool.false_and,
      if_neg Bool.false_ne_true]
  | true =>
    have kept : trimFraction ('-' :: fixed size digits) = '-' :: positional size digits :=
      trimFraction_fixed size digits ['-'] (by decide)
    rw [if_pos rfl, kept, Bool.true_and]
    by_cases zero : size = 0
    · rw [if_pos (by rw [zero, positional_zero]), zero]
      rfl
    · have signed : '-' :: positional size digits ≠ ['-', '0'] := by
        intro same
        exact zero (positional_eq_zero_iff.mp (List.cons.inj same).2)
      rw [if_neg signed, if_pos (bne_iff_ne.mpr zero)]

/-- The desk rounds the size of a value and puts the sign in front; that is the rounded value. -/
theorem exists_nearest (finite : v.isFinite = true) (digits : Nat) :
    ∃ k : ℤ, IsNearestEven (exactValue v * 10 ^ digits) k ∧
      text v digits = (PlainDecimal.ofUnits k digits).text := by
  obtain ⟨negative, steps, reading, exact⟩ := Binary64.exists_steps finite
  have rounded := isNearestEven_roundToPlaces steps digits
  refine ⟨if negative then -roundToPlaces steps digits else roundToPlaces steps digits, ?_, ?_⟩
  · rw [exact]
    cases negative with
    | false => rwa [if_neg Bool.false_ne_true, one_mul]
    | true =>
      rw [if_pos rfl, neg_one_mul, neg_mul]
      exact rounded.neg
  · exact text_of_finite reading

/-- A value has the text of its rounded number. -/
theorem text_eq_of_nearest (finite : v.isFinite = true) {k : ℤ}
    (nearest : IsNearestEven (exactValue v * 10 ^ digits) k) :
    text v digits = (PlainDecimal.ofUnits k digits).text := by
  obtain ⟨m, other, shown⟩ := exists_nearest finite digits
  rw [nearest.unique other, shown]

/-- **The display is the canonical decimal of the rounded value.** The text of a finite value is a
plain decimal in canonical form with at most the given number of digits behind the point, and what it
denotes is the exact value rounded to so many places, ties to even. It has a sign exactly when it
denotes a negative number, so that zero is never shown with one. Two finite values have the same text
exactly when they round to the same number. -/
theorem text_canonical (v : Float) (digits : Nat) (finite : v.isFinite = true) :
    (∃ d : PlainDecimal, text v digits = d.text ∧ d.fraction.length ≤ digits ∧
      (d.negative = true ↔ d.value < 0) ∧ RoundsTo digits (exactValue v) d.value) ∧
    text v digits ≠ "-0" ∧
    ∀ w : Float, w.isFinite = true → (text v digits = text w digits ↔
      ∃ y, RoundsTo digits (exactValue v) y ∧ RoundsTo digits (exactValue w) y) := by
  obtain ⟨k, nearest, shown⟩ := exists_nearest finite digits
  refine ⟨⟨PlainDecimal.ofUnits k digits, shown, length_fractionDigits_le _ _,
    PlainDecimal.negative_ofUnits k digits, k, nearest, PlainDecimal.value_ofUnits k digits⟩, ?_, ?_⟩
  · rw [shown]
    exact PlainDecimal.text_ne_of_sign (PlainDecimal.negative_ofUnits k digits)
  · intro w finite'
    constructor
    · intro same
      obtain ⟨m, other, shown'⟩ := exists_nearest finite' digits
      have decimals := PlainDecimal.text_injective (shown.symm.trans (same.trans shown'))
      obtain rfl : k = m := PlainDecimal.ofUnits_injective digits decimals
      exact ⟨k / 10 ^ digits, ⟨k, nearest, rfl⟩, k, other, rfl⟩
    · rintro ⟨y, ⟨m, nearest', rfl⟩, rounded⟩
      rw [text_eq_of_nearest finite nearest',
        text_eq_of_nearest finite' (roundsTo_div_iff.mp rounded)]

/-- What rounds to zero from below is shown like the zero that has a sign, and without the sign. -/
theorem text_canonical_below_zero :
    (-0.001 : Float).isFinite = true ∧ (-0.0 : Float).isFinite = true ∧
      text (-0.001) 2 = "0" ∧ text (-0.0) 2 = "0" ∧
      ∃ y, RoundsTo 2 (exactValue (-0.001)) y ∧ RoundsTo 2 (exactValue (-0.0)) y := by
  have below : (-0.001 : Float).isFinite = true := by decide +kernel
  have zero : (-0.0 : Float).isFinite = true := by decide +kernel
  have shown : text (-0.001) 2 = "0" := by decide +kernel
  have shown' : text (-0.0) 2 = "0" := by decide +kernel
  obtain ⟨-, -, same_text_iff⟩ := text_canonical (-0.001) 2 below
  exact ⟨below, zero, shown, shown', (same_text_iff _ zero).mp (shown.trans shown'.symm)⟩

-- a tie goes to the even digit, and a carry may cross the point
example : text 0.125 2 = "0.12" ∧ text 0.375 2 = "0.38" ∧ text (-0.999) 2 = "-1" := by
  decide +kernel

end Display

end DeskCalculator
