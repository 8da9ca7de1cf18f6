import DeskCalculator.Proofs.Evaluation.Phrase
import DeskCalculator.Proofs.Number.Display
import DeskCalculator.Proofs.Number.Reading

/-!
# Reading back what is shown

The text that is shown for a value can be typed in again. As an expression it is a numeral, perhaps
behind a minus sign; as a postfix form it is one literal with its sign. Both are read as a float
nearest to the decimal that is shown. That float is at least as near to the decimal as the value is
that was shown, so that it rounds to the same decimal, although it may be another float.

## Main definitions

* `Number.PlainDecimal.numeral`: the numeral of a plain decimal, without its sign
* `Number.PlainDecimal.reading`: the float that a plain decimal is read as
* `Number.PlainDecimal.phrase`: the phrase that a plain decimal spells

## Main results

* `Number.PlainDecimal.isNearestFloat_reading`: a plain decimal is read as a nearest float
* `Number.IsNearestEven.of_isNearestFloat`: the float that is read rounds to the same number
* `Display.text_reread`: what is shown is shown again
-/

namespace DeskCalculator

namespace Number

namespace PlainDecimal

variable (d : PlainDecimal)

/-! ## The literal of a decimal -/

theorem whole_ne_nil : d.whole ≠ [] := by
  rcases d.whole_head with zero | ⟨first, rest, eq, -⟩
  · simp [zero]
  · simp [eq]

/-- The characters of a decimal behind its sign. -/
def size : List Char :=
  d.whole ++ pointed d.fraction

theorem exists_size_eq_cons : ∃ c r, d.size = c :: r ∧ c.isDigit = true := by
  obtain ⟨c, r, eq⟩ := List.exists_cons_of_ne_nil d.whole_ne_nil
  exact ⟨c, r ++ pointed d.fraction, by rw [size, eq, List.cons_append],
    d.whole_digits c (eq ▸ List.mem_cons_self)⟩

/-- The point is left out, or it stands in front of the fraction. -/
theorem size_cases :
    (d.fraction = [] ∧ d.size = d.whole) ∨ d.size = d.whole ++ '.' :: d.fraction := by
  rw [size]
  cases d.fraction with
  | nil => exact .inl ⟨rfl, List.append_nil _⟩
  | cons => exact .inr rfl

theorem isNumeric_of_mem_size {c : Char} (hc : c ∈ d.size) : Token.isNumeric c = true := by
  have of_digit (digit : c.isDigit = true) : Token.isNumeric c = true := by
    rw [Token.isNumeric, digit, Bool.true_or]
  rcases d.size_cases with ⟨-, eq⟩ | eq <;> rw [eq] at hc
  · exact of_digit (d.whole_digits c hc)
  · rcases List.mem_append.mp hc with whole | behind
    · exact of_digit (d.whole_digits c whole)
    · rcases List.mem_cons.mp behind with rfl | fraction
      · rfl
      · exact of_digit (d.fraction_digits c fraction)

theorem count_point_size : d.size.count '.' ≤ 1 := by
  have none {s : List Char} (digits : ∀ c ∈ s, c.isDigit = true) : s.count '.' = 0 :=
    List.count_eq_zero.mpr fun point => absurd (digits '.' point) (by decide)
  rcases d.size_cases with ⟨-, eq⟩ | eq <;> rw [eq]
  · exact (none d.whole_digits).trans_le (Nat.zero_le 1)
  · rw [List.count_append, List.count_cons_self, none d.whole_digits, none d.fraction_digits]

/-- The digits on both sides of the point, and where the point stands. -/
def literal : Literal where
  digits := d.whole ++ d.fraction
  scale := 0 - d.fraction.length

theorem ofChars?_size : Literal.ofChars? d.size = some d.literal := by
  rcases d.size_cases with ⟨none, eq⟩ | eq <;> rw [eq]
  · rw [Literal.ofChars?_digits d.whole_digits d.whole_ne_nil, literal, none, List.append_nil]
    rfl
  · exact Literal.ofChars?_point d.whole_digits d.fraction_digits (.inl d.whole_ne_nil)

theorem isDigit_of_mem_literal : ∀ c ∈ d.literal.digits, c.isDigit = true := by
  intro c hc
  exact (List.mem_append.mp hc).elim (d.whole_digits c) (d.fraction_digits c)

theorem number_literal : d.literal.number = digitsValue d.whole + fractionValue d.fraction := by
  have ten : (10 : ℚ) ^ d.fraction.length ≠ 0 := pow_ne_zero _ (by norm_num)
  rw [Literal.number, literal, digitsValue_append, Nat.cast_add, Nat.cast_mul, cast_tenTo, zero_sub,
    zpow_neg, zpow_natCast, ← div_eq_mul_inv, add_div, mul_div_cancel_left₀ _ ten, fractionValue]

theorem value_eq : d.value = (if d.negative then -1 else 1) * d.literal.number := by
  rw [number_literal, value]

/-! ## The float that is read -/

/-- The numeral of a decimal, without its sign. -/
def numeral : Numeral where
  text := String.ofList d.size
  numeric := by
    rw [String.toList_ofList]
    exact fun c => d.isNumeric_of_mem_size
  points := by
    rw [String.toList_ofList]
    exact d.count_point_size
  digit := by
    rw [String.toList_ofList]
    obtain ⟨c, r, eq, digit⟩ := d.exists_size_eq_cons
    exact ⟨c, eq ▸ List.mem_cons_self, digit⟩

theorem toList_numeral : d.numeral.text.toList = d.size :=
  String.toList_ofList

theorem value_numeral : d.numeral.value = d.literal.value := by
  have read := d.numeral.readUnsigned?_text
  rw [toList_numeral, readUnsigned?, ofChars?_size] at read
  exact (Option.some.inj read).symm

/-- The float that a plain decimal is read as. -/
def reading : Float :=
  if d.negative then -d.numeral.value else d.numeral.value

/-- **A plain decimal is read as a nearest float**, unless it is too great. -/
theorem isNearestFloat_reading (below : |d.value| < overflowBound) :
    IsNearestFloat d.value d.reading := by
  have nearest (small : d.literal.number < overflowBound) :
      IsNearestFloat d.literal.number d.numeral.value := by
    rw [value_numeral]
    exact Literal.isNearestFloat_value d.isDigit_of_mem_literal small
  rw [value_eq] at below ⊢
  rw [reading]
  cases sign : d.negative with
  | false =>
    rw [sign, if_neg Bool.false_ne_true, one_mul, abs_of_nonneg d.literal.number_nonneg] at below
    rw [if_neg Bool.false_ne_true, if_neg Bool.false_ne_true, one_mul]
    exact nearest below
  | true =>
    rw [sign, if_pos rfl, neg_one_mul, abs_neg, abs_of_nonneg d.literal.number_nonneg] at below
    rw [if_pos rfl, if_pos rfl, neg_one_mul]
    exact (nearest below).neg

theorem text_of_unsigned (unsigned : d.negative = false) : d.text = d.numeral.text := by
  rw [text, unsigned]
  rfl

theorem toList_text_of_signed (signed : d.negative = true) : d.text.toList = '-' :: d.size := by
  rw [text, signed]
  exact String.toList_ofList

/-- As one literal a decimal is read with its sign. -/
theorem readFloat?_text : readFloat? d.text = some d.reading := by
  have unsigned := d.numeral.readUnsigned?_text
  rw [toList_numeral] at unsigned
  cases sign : d.negative with
  | false =>
    rw [d.text_of_unsigned sign, d.numeral.readFloat?_text, reading, sign]
    rfl
  | true =>
    simp only [readFloat?, d.toList_text_of_signed sign, unsigned, reading, sign]
    rfl

/-! ## As an expression, and as a postfix form -/

/-- The phrase that a plain decimal spells: a numeral, perhaps behind a minus sign. -/
def phrase : Phrase .sum :=
  let unsigned : Phrase .prefixed := .tight nofun (.numeral d.numeral)
  .tight nofun (.tight nofun (.tight nofun (if d.negative then .negated unsigned else unsigned)))

theorem value_phrase : d.phrase.value = d.reading := by
  rw [phrase, reading]
  cases d.negative <;> rfl

theorem spells_numeral : Spells [.number d.numeral.text] d.size := by
  have nothing : Spells [] [] := .nil (by simp)
  have alone : Spells [.number d.numeral.text] ([] ++ (d.numeral.text.toList ++ [])) :=
    .cons (by simp) (by simp) nothing
  rwa [List.nil_append, List.append_nil, toList_numeral] at alone

theorem spells_phrase : Spells d.phrase.tokens d.text.toList := by
  rw [phrase]
  cases sign : d.negative with
  | false =>
    rw [d.text_of_unsigned sign, toList_numeral]
    exact d.spells_numeral
  | true =>
    rw [d.toList_text_of_signed sign]
    have signed : Spells [.operator .negation, .number d.numeral.text]
        ([] ++ ("-".toList ++ d.size)) :=
      .cons (by simp) (fun _ _ merges => absurd merges.2 (by decide)) d.spells_numeral
    exact signed

/-- A decimal is one word, which stands for a literal. -/
theorem isIsolable_text : Token.IsIsolable (.number d.text) := by
  obtain ⟨c, r, eq, -⟩ := d.exists_size_eq_cons
  cases sign : d.negative with
  | false =>
    rw [d.text_of_unsigned sign]
    exact Token.isIsolable_number (eq ▸ List.cons_ne_nil c r) fun c => d.isNumeric_of_mem_size
  | true =>
    have chars := d.toList_text_of_signed sign
    refine ⟨⟨by simp [Token.text, chars], fun c hc => ?_⟩, ?_⟩
    · rw [Token.text, chars] at hc
      rcases List.mem_cons.mp hc with rfl | hc
      · rfl
      · exact Token.isBlank_of_isNumeric (d.isNumeric_of_mem_size hc)
    · rw [eq] at chars
      simp only [Token.text, Token.ofText, chars]
      rfl

end PlainDecimal

/-! ## What was rounded off -/

/-- **The float that is read rounds to the same number.** It is as near to the rounded number as the
float that was rounded. -/
theorem IsNearestEven.of_isNearestFloat {v w : Float} {places : Nat} {k : ℤ}
    (finite : v.isFinite = true) (rounded : IsNearestEven (exactValue v * 10 ^ places) k)
    (read : IsNearestFloat (k / 10 ^ places) w) :
    IsNearestEven (exactValue w * 10 ^ places) k := by
  have unit : (0 : ℚ) < 10 ^ places := by positivity
  have near : |exactValue w * 10 ^ places - k| ≤ |exactValue v * 10 ^ places - k| := by
    rw [abs_sub_comm, abs_sub_comm _ (k : ℚ), ← abs_div_sub_mul unit, ← abs_div_sub_mul unit]
    exact mul_le_mul_of_nonneg_right (read.near v finite) unit.le
  -- if what is read is on a tie, so is the value, which is no nearer
  refine ⟨near.trans rounded.near, fun tie => rounded.tie ?_⟩
  exact le_antisymm rounded.near (tie ▸ near)

/-- What a finite float is rounded to is not too great. -/
theorem IsNearestEven.abs_lt_overflowBound {v : Float} {places : Nat} {k : ℤ}
    (finite : v.isFinite = true) (rounded : IsNearestEven (exactValue v * 10 ^ places) k) :
    |(k / 10 ^ places : ℚ)| < overflowBound := by
  have one : (1 : ℚ) ≤ 10 ^ places := one_le_pow₀ (by norm_num)
  have unit : (0 : ℚ) < 10 ^ places := one_pos.trans_le one
  have spacing : ((twoTo 1 : Nat) : ℚ) ≤ twoTo 971 := Nat.cast_le.mpr (twoTo_mono (by decide))
  have two : ((twoTo 1 : Nat) : ℚ) = 2 := rfl
  have offset : |(k : ℚ)| ≤ |exactValue v| * 10 ^ places + 1 / 2 := by
    have gap := (abs_sub_abs_le_abs_sub (k : ℚ) (exactValue v * 10 ^ places)).trans_eq
      (abs_sub_comm _ _)
    rw [abs_mul, abs_of_pos unit] at gap
    linarith [rounded.near]
  calc |(k / 10 ^ places : ℚ)|
    _ = |(k : ℚ)| / 10 ^ places := by rw [abs_div, abs_of_pos unit]
    _ ≤ |exactValue v| + 1 / 2 := by
      rw [div_le_iff₀ unit, add_mul]
      linarith
    _ < overflowBound := by
      rw [overflowBound]
      linarith [Binary64.abs_exactValue_le finite]

end Number

open Machine in
/-- A postfix form that is one literal has its value. -/
theorem Postfix.outcome_evaluateText_of_literal {s : String} {x : Float}
    (isolable : Token.IsIsolable (.number s)) (read : Number.readFloat? s = some x)
    (settings : Settings) : (evaluateText s settings).outcome = .ok x := by
  have word : Text.words s = [s] := Text.words_of_isWord isolable.isWord
  have token : Token.ofText s = .number s := isolable.ofText_text
  have form : ofText s = [.number s] := by rw [ofText, word, List.map_singleton, token]
  rw [evaluateText_eq, form, outcome_evaluate, outcome_run_singleton, outcome_step_of_value read,
    Except.bind_ok]
  simp [result]

/-- An expression that spells a phrase has the value of the phrase. -/
theorem Phrase.exists_outcome_evaluate (p : Phrase .sum) {s : String}
    (spells : Spells p.tokens s.toList) (settings : Settings) :
    ∃ working, (Expression.evaluate s settings).outcome = .ok (p.value, working) := by
  have form := p.ofExpression_of_spells spells settings
  have value : (Postfix.evaluate p.postorder settings).outcome = .ok p.value := by
    rw [Postfix.outcome_evaluate, outcome_run_postorder, Except.bind_ok]
    simp [Machine.result]
  exact ⟨_, Expression.outcome_evaluate_eq_ok_iff.mpr ⟨_, form, p.postorder_ne_nil, value, rfl⟩⟩

namespace Display

open Number

/-- **What is shown is shown again.** The text that is shown for a finite value has a finite value as
an expression, under any settings; as a postfix form it has the same one; and the same text is shown
for it, with the same number of places. -/
theorem text_reread (v : Float) (digits : Nat) (settings : Settings) (finite : v.isFinite = true) :
    ∃ w working, w.isFinite = true ∧
      (Expression.evaluate (text v digits) settings).outcome = .ok (w, working) ∧
      (Postfix.evaluateText (text v digits) settings).outcome = .ok w ∧
      text w digits = text v digits := by
  obtain ⟨k, rounded, shown⟩ := exists_nearest finite digits
  let d := PlainDecimal.ofUnits k digits
  have nearest : IsNearestFloat (k / 10 ^ digits) d.reading := by
    have small := rounded.abs_lt_overflowBound finite
    rw [← PlainDecimal.value_ofUnits] at small ⊢
    exact d.isNearestFloat_reading small
  obtain ⟨working, value⟩ := d.phrase.exists_outcome_evaluate d.spells_phrase settings
  rw [d.value_phrase] at value
  rw [shown]
  exact ⟨d.reading, working, nearest.finite, value,
    Postfix.outcome_evaluateText_of_literal d.isIsolable_text d.readFloat?_text settings,
    text_eq_of_nearest nearest.finite (rounded.of_isNearestFloat finite nearest)⟩

/-- A tie below zero, which is shown as an even number of hundredths. -/
theorem text_reread_tie :
    (-0.375 : Float).isFinite = true ∧ text (-0.375) 2 = "-0.38" ∧
      ∃ w working, w.isFinite = true ∧
        (Expression.evaluate "-0.38" .strict).outcome = .ok (w, working) ∧
        (Postfix.evaluateText "-0.38" .strict).outcome = .ok w ∧ text w 2 = "-0.38" := by
  have finite : (-0.375 : Float).isFinite = true := by decide +kernel
  have shown : text (-0.375) 2 = "-0.38" := by decide +kernel
  have reread := text_reread (-0.375) 2 .strict finite
  rw [shown] at reread
  exact ⟨finite, shown, reread⟩

end Display

end DeskCalculator
