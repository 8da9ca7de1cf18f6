import DeskCalculator.Number.Literal
import DeskCalculator.Number.Numeral
import Mathlib.Tactic.Push

/-!
# Numerals of machine words

The digits of a numeral are read from left to right, and a number that does not fit is refused as
soon as it shows. Since further digits make a number no smaller, the numerals that are read are
those whose number fits as a whole, with any number of zeros in front.

## Main definitions

* `Number.IsNumeral`: the numerals, and the numbers that they denote

## Main results

* `Number.readDigits_eq_ok_iff`: the digits that are read behind a number
* `Number.readNumeral_eq_ok_iff`: the numerals that are read
-/

namespace DeskCalculator.Number

variable {sofar n : Nat} {digits : List Char} {s : String}

/-- Further digits make a number no smaller. -/
theorem le_ofDigitChars (sofar : Nat) (digits : List Char) :
    sofar ≤ Nat.ofDigitChars 10 digits sofar := by
  rw [Nat.ofDigitChars_eq_ofDigitChars_zero]
  have scaled : sofar ≤ 10 ^ digits.length * sofar :=
    Nat.le_mul_of_pos_left sofar (Nat.pow_pos (by decide))
  omega

/-- Behind a number that fits, digits are read whose number fits as a whole. -/
theorem readDigits_eq_ok_iff (fits : sofar < wordBound) :
    readDigits sofar digits = .ok n ↔
      (∀ c ∈ digits, c.isDigit = true) ∧ Nat.ofDigitChars 10 digits sofar = n ∧ n < wordBound := by
  induction digits generalizing sofar with
  | nil =>
    rw [readDigits, Except.ok.injEq, Nat.ofDigitChars_nil]
    constructor
    · rintro rfl
      exact ⟨List.forall_mem_nil _, rfl, fits⟩
    · exact fun read => read.2.1
  | cons c digits ih =>
    rw [List.forall_mem_cons, Nat.ofDigitChars_cons, readDigits]
    by_cases digit : c.isDigit = true
    · rw [if_pos digit]
      by_cases more : 10 * sofar + (c.toNat - '0'.toNat) < wordBound
      · rw [if_pos more, ih more]
        simp [digit]
      · rw [if_neg more]
        -- what does not fit here does not fit with further digits either
        have beyond : ∀ m, Nat.ofDigitChars 10 digits (10 * sofar + (c.toNat - '0'.toNat)) = m →
            ¬ m < wordBound := by
          rintro m rfl less
          exact more (Nat.lt_of_le_of_lt (le_ofDigitChars _ _) less)
        simp only [reduceCtorEq, false_iff]
        rintro ⟨-, same, less⟩
        exact beyond n same less
    · simp [digit]

/-- The numerals of a number: digits, at least one, perhaps with a plus sign in front. -/
def IsNumeral (s : String) (n : Nat) : Prop :=
  ∃ sign digits : List Char, s.toList = sign ++ digits ∧ (sign = [] ∨ sign = ['+']) ∧
    digits ≠ [] ∧ (∀ c ∈ digits, c.isDigit = true) ∧ digitsValue digits = n

/-- Without a sign, and behind one, the digits of a numeral are read. -/
theorem readNumeral_of_digits {sign : List Char} (text : s.toList = sign ++ digits)
    (plus : sign = [] ∨ sign = ['+']) (some : digits ≠ [])
    (unsigned : sign = [] → '+' ∉ digits.head?) : readNumeral s = readDigits 0 digits := by
  obtain ⟨c, r, rfl⟩ := List.exists_cons_of_ne_nil some
  rcases plus with rfl | rfl
  · have ne : c ≠ '+' := by simpa using unsigned rfl
    rw [List.nil_append] at text
    simp only [readNumeral, text]
    split <;> simp_all
  · rw [List.singleton_append] at text
    simp only [readNumeral, text]

/-- **The numerals that are read** are those whose number fits into a word. -/
theorem readNumeral_eq_ok_iff : readNumeral s = .ok n ↔ IsNumeral s n ∧ n < wordBound := by
  have zero : 0 < wordBound := Nat.pow_pos (by decide)
  constructor
  · intro read
    rw [readNumeral] at read
    split at read
    · cases read
    · cases read
    · next digits alone text =>
      obtain ⟨all, value, less⟩ := (readDigits_eq_ok_iff zero).mp read
      exact ⟨⟨['+'], digits, text, .inr rfl, fun none => alone (none ▸ rfl), all, value⟩, less⟩
    · next some _ _ =>
      obtain ⟨all, value, less⟩ := (readDigits_eq_ok_iff zero).mp read
      exact ⟨⟨[], s.toList, rfl, .inl rfl, some, all, value⟩, less⟩
  · rintro ⟨⟨sign, digits, text, plus, some, all, value⟩, less⟩
    have unsigned : sign = [] → '+' ∉ digits.head? := by
      intro _ first
      exact absurd (all '+' (List.mem_of_mem_head? first)) Bool.false_ne_true
    rw [readNumeral_of_digits text plus some unsigned]
    exact (readDigits_eq_ok_iff zero).mpr ⟨all, value, less⟩

end DeskCalculator.Number
