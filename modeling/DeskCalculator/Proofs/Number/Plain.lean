import DeskCalculator.Number.Decimal
import DeskCalculator.Number.Literal
import Mathlib.Algebra.Order.Ring.Rat
import Mathlib.Data.List.DropRight
import Mathlib.Data.List.TakeWhile
import Mathlib.Data.Rat.Cast.Order
import Mathlib.Tactic.FieldSimp
import Mathlib.Tactic.Linarith
import Mathlib.Tactic.Ring

/-!
# Plain decimals

A plain decimal is a text without an exponent: a sign that may be missing, a whole part, and perhaps
a fraction behind a point. In its canonical form no digit can be left out.

## Main definitions

* `PlainDecimal`: a plain decimal in canonical form
* `PlainDecimal.text`, `PlainDecimal.value`: how it is written and what it denotes
* `PlainDecimal.ofUnits`: the one that denotes a number of decimal units

## Main results

* `PlainDecimal.text_injective`: a text is that of one plain decimal
* `PlainDecimal.value_ofUnits`, `PlainDecimal.text_ofUnits`: units are written by `positional`
-/

namespace DeskCalculator.Number

/-- A decimal in canonical form: the whole part is zero or starts with another digit, the fraction
may be missing and does not end in zero. -/
structure PlainDecimal where
  negative : Bool
  whole : List Char
  fraction : List Char
  whole_digits : ∀ c ∈ whole, c.isDigit = true
  whole_head : whole = ['0'] ∨ ∃ first rest, whole = first :: rest ∧ first ≠ '0'
  fraction_digits : ∀ c ∈ fraction, c.isDigit = true
  fraction_end : fraction.getLast? ≠ some '0'

/-- A fraction behind its point, which is left out with it. -/
def pointed : List Char → List Char
  | [] => []
  | fraction => '.' :: fraction

/-- The number, below one, that the digits behind a point denote. -/
def fractionValue (digits : List Char) : ℚ :=
  digitsValue digits / 10 ^ digits.length

namespace PlainDecimal

/-- The sign, the whole part and the fraction behind a point. -/
def text (d : PlainDecimal) : String :=
  String.ofList ((if d.negative then ['-'] else []) ++ (d.whole ++ pointed d.fraction))

/-- The rational number that a plain decimal denotes. -/
def value (d : PlainDecimal) : ℚ :=
  (if d.negative then -1 else 1) * (digitsValue d.whole + fractionValue d.fraction)

/-! ## Reading a text back -/

theorem pointed_injective : Function.Injective pointed := by
  rintro (_ | ⟨a, s⟩) (_ | ⟨b, t⟩) same
  · rfl
  · cases same
  · cases same
  · exact (List.cons.inj same).2

/-- What stands behind the whole part starts with no digit. -/
theorem takeWhile_append_pointed {whole : List Char} (digits : ∀ c ∈ whole, c.isDigit = true)
    (fraction : List Char) : (whole ++ pointed fraction).takeWhile Char.isDigit = whole := by
  rw [List.takeWhile_append_of_pos digits]
  cases fraction <;> exact List.append_nil whole

/-- **A text is that of one plain decimal.** -/
theorem text_injective : Function.Injective text := by
  rintro ⟨n, w, f, digits, head, _, _⟩ ⟨n', w', f', digits', head', _, _⟩ same
  have chars := String.ofList_injective same
  have no_sign : ∀ {w f t : List Char}, (∀ c ∈ w, c.isDigit = true) →
      (w = ['0'] ∨ ∃ first rest, w = first :: rest ∧ first ≠ '0') → w ++ pointed f ≠ '-' :: t := by
    rintro w f t digits head start
    obtain ⟨first, rest, rfl⟩ : ∃ first rest, w = first :: rest := by
      rcases head with rfl | ⟨first, rest, rfl, -⟩
      exacts [⟨_, _, rfl⟩, ⟨_, _, rfl⟩]
    obtain ⟨rfl, -⟩ := List.cons.inj start
    exact absurd (digits '-' (List.mem_cons_self ..)) (by decide)
  have unsigned : n = n' ∧ w ++ pointed f = w' ++ pointed f' := by
    cases n <;> cases n'
    · exact ⟨rfl, chars⟩
    · exact absurd chars (no_sign digits head)
    · exact absurd chars.symm (no_sign digits' head')
    · exact ⟨rfl, (List.cons.inj chars).2⟩
  obtain ⟨rfl, body⟩ := unsigned
  have wholes := congrArg (List.takeWhile Char.isDigit) body
  rw [takeWhile_append_pointed digits, takeWhile_append_pointed digits'] at wholes
  subst wholes
  obtain rfl := pointed_injective (List.append_cancel_left body)
  rfl

/-- Zero behind a sign: a canonical form, but not that of a negative number. -/
def signedZero : PlainDecimal where
  negative := true
  whole := ['0']
  fraction := []
  whole_digits := List.forall_mem_singleton.mpr rfl
  whole_head := .inl rfl
  fraction_digits := List.forall_mem_nil _
  fraction_end := nofun

theorem value_signedZero : signedZero.value = 0 := by
  simp [value, signedZero, fractionValue, digitsValue, Nat.ofDigitChars]

theorem text_ne_of_sign {d : PlainDecimal} (sign : d.negative = true ↔ d.value < 0) :
    d.text ≠ "-0" := by
  intro same
  obtain rfl : d = signedZero := text_injective same
  exact lt_irrefl (0 : ℚ) (value_signedZero ▸ sign.mp rfl)

end PlainDecimal

/-! ## Digits of a number -/

/-- A positive number is written with a first digit other than zero. -/
theorem exists_toDigits_eq_cons {m : Nat} (pos : 0 < m) :
    ∃ first rest, Nat.toDigits 10 m = first :: rest ∧ first ≠ '0' := by
  induction m using Nat.strong_induction_on with
  | _ m ih =>
    rcases Nat.lt_or_ge m 10 with small | great
    · refine ⟨m.digitChar, [], Nat.toDigits_of_lt_base small, ?_⟩
      rw [Ne, Nat.digitChar_eq_zero]
      exact pos.ne'
    · obtain ⟨first, rest, digits, ne⟩ := ih (m / 10) (by omega) (by omega)
      refine ⟨first, rest ++ [(m % 10).digitChar], ?_, ne⟩
      rw [Nat.toDigits_of_base_le (by decide) great, digits, List.cons_append]

theorem toDigits_head (m : Nat) :
    Nat.toDigits 10 m = ['0'] ∨ ∃ first rest, Nat.toDigits 10 m = first :: rest ∧ first ≠ '0' := by
  rcases Nat.eq_zero_or_pos m with rfl | pos
  · exact .inl (Nat.toDigits_zero 10)
  · exact .inr (exists_toDigits_eq_cons pos)

/-! ## Digits behind the point -/

/-- Zeros at the end of a fraction do not count. -/
theorem fractionValue_dropEndWhile (digits : List Char) :
    fractionValue (Text.dropEndWhile (· == '0') digits) = fractionValue digits := by
  induction digits using List.reverseRecOn with
  | nil => rfl
  | append_singleton digits c ih =>
    rw [Text.dropEndWhile_concat]
    split
    · next zero =>
      obtain rfl := beq_iff_eq.mp zero
      rw [ih]
      have shifted : digitsValue (digits ++ ['0']) = 10 * digitsValue digits := by
        rw [digitsValue, Nat.ofDigitChars_append]
        rfl
      rw [fractionValue, fractionValue, shifted, List.length_append, List.length_singleton, pow_succ]
      push_cast
      field_simp
    · rfl

theorem digitsValue_leftpad (places : Nat) (digits : List Char) :
    digitsValue (List.leftpad places '0' digits) = digitsValue digits := by
  rw [digitsValue, List.leftpad, Nat.ofDigitChars_append, Nat.ofDigitChars_replicate_zero,
    Nat.mul_zero]
  rfl

/-- The digits behind the point of `k` units of the last of so many places. -/
def fractionDigits (k places : Nat) : List Char :=
  Text.dropEndWhile (· == '0') (List.leftpad places '0' (Nat.toDigits 10 (k % tenTo places)))

theorem length_leftpad_toDigits {k places : Nat} (some_places : 0 < places) :
    (List.leftpad places '0' (Nat.toDigits 10 (k % tenTo places))).length = places := by
  have short : (Nat.toDigits 10 (k % tenTo places)).length ≤ places :=
    (Nat.length_toDigits_le_iff (by decide) some_places).mpr (Nat.mod_lt k (tenTo_pos places))
  rw [List.length_leftpad, max_eq_left short]

theorem fractionDigits_zero (k : Nat) : fractionDigits k 0 = [] := by
  rw [fractionDigits, tenTo_zero, Nat.mod_one]
  rfl

theorem length_fractionDigits_le (k places : Nat) : (fractionDigits k places).length ≤ places := by
  rcases Nat.eq_zero_or_pos places with rfl | some_places
  · rw [fractionDigits_zero]
    rfl
  · calc (fractionDigits k places).length
      _ ≤ _ := (List.rdropWhile_prefix _ _).length_le
      _ = places := length_leftpad_toDigits some_places

theorem fractionValue_fractionDigits (k places : Nat) :
    fractionValue (fractionDigits k places) = (k % tenTo places : Nat) / 10 ^ places := by
  rcases Nat.eq_zero_or_pos places with rfl | some_places
  · rw [fractionDigits_zero, tenTo_zero, Nat.mod_one]
    rfl
  · rw [fractionDigits, fractionValue_dropEndWhile, fractionValue,
      length_leftpad_toDigits some_places, digitsValue_leftpad, digitsValue,
      Nat.ofDigitChars_ten_toDigits]

theorem isDigit_of_mem_fractionDigits {k places : Nat} :
    ∀ c ∈ fractionDigits k places, c.isDigit = true := by
  intro c hc
  have member := (List.rdropWhile_prefix _ _).subset hc
  rcases List.mem_append.mp member with zero | digit
  · rw [List.eq_of_mem_replicate zero]
    rfl
  · exact Nat.isDigit_of_mem_toDigits (by decide) (by decide) digit

theorem getLast?_fractionDigits (k places : Nat) : (fractionDigits k places).getLast? ≠ some '0' := by
  intro zero
  have ne : fractionDigits k places ≠ [] := by
    rintro empty
    rw [empty] at zero
    cases zero
  have last := List.rdropWhile_last_not (· == '0') _ ne
  rw [List.getLast?_eq_some_getLast ne, Option.some.injEq] at zero
  exact last (beq_iff_eq.mpr zero)

theorem fixed_zero (k : Nat) : fixed k 0 = Nat.toDigits 10 (k / tenTo 0) :=
  rfl

theorem fixed_of_pos {places : Nat} (some_places : 0 < places) (k : Nat) :
    fixed k places = Nat.toDigits 10 (k / tenTo places) ++
      '.' :: List.leftpad places '0' (Nat.toDigits 10 (k % tenTo places)) :=
  if_neg some_places.ne'

theorem positional_eq (k places : Nat) :
    positional k places =
      Nat.toDigits 10 (k / tenTo places) ++ pointed (fractionDigits k places) := by
  show (match fractionDigits k places with
    | [] => Nat.toDigits 10 (k / tenTo places)
    | fraction => Nat.toDigits 10 (k / tenTo places) ++ '.' :: fraction) = _
  cases fractionDigits k places with
  | nil => exact (List.append_nil _).symm
  | cons => rfl

namespace PlainDecimal

/-- The plain decimal of `k` units of the last of so many places. -/
def ofUnits (k : ℤ) (places : Nat) : PlainDecimal where
  negative := decide (k < 0)
  whole := Nat.toDigits 10 (k.natAbs / tenTo places)
  fraction := fractionDigits k.natAbs places
  whole_digits := fun _ => Nat.isDigit_of_mem_toDigits (by decide) (by decide)
  whole_head := toDigits_head _
  fraction_digits := isDigit_of_mem_fractionDigits
  fraction_end := getLast?_fractionDigits _ _

variable (k : ℤ) (places : Nat)

/-- **Units are written by `positional`**, behind a sign if they are negative and not zero. -/
theorem text_ofUnits (negative : Bool) (size places : Nat) :
    (ofUnits (if negative then -size else size) places).text =
      String.ofList (if negative && size != 0 then '-' :: positional size places
        else positional size places) := by
  rw [positional_eq]
  cases negative with
  | false => simp [text, ofUnits]
  | true =>
    rcases Nat.eq_zero_or_pos size with rfl | pos
    · simp [text, ofUnits]
    · simp [text, ofUnits, pos, pos.ne']

theorem text_ofUnits_natCast (size places : Nat) :
    (ofUnits size places).text = String.ofList (positional size places) :=
  text_ofUnits false size places

theorem sign_mul_natAbs : (if decide (k < 0) = true then -1 else 1) * (k.natAbs : ℚ) = k := by
  rw [Nat.cast_natAbs]
  by_cases below : k < 0
  · rw [abs_of_neg below, if_pos (decide_eq_true below), Int.cast_neg]
    ring
  · rw [abs_of_nonneg (not_lt.mp below), if_neg (by rwa [decide_eq_true_iff]), one_mul]

/-- **Units denote their number**, whatever zeros the fraction has lost. -/
theorem value_ofUnits : (ofUnits k places).value = k / 10 ^ places := by
  have division : (10 : ℚ) ^ places * (k.natAbs / tenTo places : Nat) +
      (k.natAbs % tenTo places : Nat) = k.natAbs := by
    exact_mod_cast Nat.div_add_mod k.natAbs (10 ^ places)
  have whole : digitsValue (ofUnits k places).whole = k.natAbs / tenTo places :=
    Nat.ofDigitChars_ten_toDigits
  have fraction : fractionValue (ofUnits k places).fraction =
      (k.natAbs % tenTo places : Nat) / 10 ^ places := fractionValue_fractionDigits _ _
  rw [value, whole, fraction, ← sign_mul_natAbs k, ← division, ofUnits]
  field_simp

theorem ofUnits_injective : Function.Injective (ofUnits · places) := by
  intro k m same
  have values := congrArg value same
  simp only [value_ofUnits] at values
  rwa [div_left_inj' (pow_ne_zero _ (by norm_num)), Int.cast_inj] at values

/-- The sign stands exactly in front of the negative numbers. -/
theorem negative_ofUnits : (ofUnits k places).negative = true ↔ (ofUnits k places).value < 0 := by
  rw [value_ofUnits, div_lt_iff₀ (by positivity), zero_mul, Int.cast_lt_zero]
  exact decide_eq_true_iff

end PlainDecimal

/-- Different numbers of units are written differently. -/
theorem positional_injective (places : Nat) : Function.Injective (positional · places) := by
  intro size other same
  have texts : (PlainDecimal.ofUnits size places).text = (PlainDecimal.ofUnits other places).text := by
    rw [PlainDecimal.text_ofUnits_natCast, PlainDecimal.text_ofUnits_natCast]
    exact congrArg String.ofList same
  exact_mod_cast PlainDecimal.ofUnits_injective places (PlainDecimal.text_injective texts)

theorem positional_zero (places : Nat) : positional 0 places = ['0'] := by
  have zeros : fractionDigits 0 places = [] := by
    refine List.rdropWhile_eq_nil_iff.mpr fun c hc => beq_iff_eq.mpr ?_
    rw [Nat.zero_mod, Nat.toDigits_zero] at hc
    rcases List.mem_append.mp hc with pad | last
    · exact List.eq_of_mem_replicate pad
    · exact List.eq_of_mem_singleton last
  rw [positional_eq, zeros, Nat.zero_div]
  rfl

theorem positional_eq_zero_iff {size places : Nat} : positional size places = ['0'] ↔ size = 0 := by
  rw [← positional_zero places]
  exact (positional_injective places).eq_iff

end DeskCalculator.Number
