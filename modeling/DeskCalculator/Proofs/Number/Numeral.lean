import DeskCalculator.Number.Literal
import DeskCalculator.Token.Basic
import Mathlib.Data.List.TakeWhile

/-!
# Plain numerals

The numerals of the infix language have neither a sign nor an exponent: digits, perhaps a point
among them, at least one digit in all. Each of them has a value.

## Main definitions

* `Number.Numeral`: the plain numerals

## Main results

* `Number.Literal.ofChars?_digits`, `Number.Literal.ofChars?_point`: how they are read
* `Number.isSome_readFloat?`: a plain numeral has a value
-/

namespace DeskCalculator.Number

/-- Digits with at most one point, at least one digit. -/
structure Numeral where
  text : String
  numeric : ∀ c ∈ text.toList, Token.isNumeric c = true
  points : text.toList.count '.' ≤ 1
  digit : ∃ c ∈ text.toList, c.isDigit = true

variable {w whole fraction : List Char}

theorem Literal.ofChars?_digits (digits : ∀ c ∈ w, c.isDigit = true) (ne : w ≠ []) :
    Literal.ofChars? w = some ⟨w, 0⟩ := by
  simp [Literal.ofChars?, List.takeWhile_eq_self_iff.mpr digits,
    List.dropWhile_eq_nil_iff.mpr digits, ne, exponentPart?]

theorem Literal.ofChars?_point (whole_digits : ∀ c ∈ whole, c.isDigit = true)
    (fraction_digits : ∀ c ∈ fraction, c.isDigit = true) (ne : whole ≠ [] ∨ fraction ≠ []) :
    Literal.ofChars? (whole ++ '.' :: fraction) =
      some ⟨whole ++ fraction, 0 - fraction.length⟩ := by
  have split : (whole ++ '.' :: fraction).takeWhile Char.isDigit = whole ∧
      (whole ++ '.' :: fraction).dropWhile Char.isDigit = '.' :: fraction := by
    rw [List.takeWhile_append_of_pos whole_digits, List.dropWhile_append_of_pos whole_digits]
    exact ⟨List.append_nil whole, rfl⟩
  simp only [Literal.ofChars?, split, List.takeWhile_eq_self_iff.mpr fraction_digits,
    List.dropWhile_eq_nil_iff.mpr fraction_digits]
  rw [if_neg fun ⟨no_whole, no_fraction⟩ => ne.elim (· no_whole) (· no_fraction)]
  rfl

theorem isDigit_of_isNumeric {c : Char} (numeric : Token.isNumeric c = true) (ne : c ≠ '.') :
    c.isDigit = true := by
  simpa [Token.isNumeric, ne] using numeric

/-- With at most one point, digits and points are digits, or digits around the point. -/
theorem exists_digits_around_point (numeric : ∀ c ∈ w, Token.isNumeric c = true)
    (points : w.count '.' ≤ 1) :
    (∀ c ∈ w, c.isDigit = true) ∨ ∃ whole fraction, w = whole ++ '.' :: fraction ∧
      (∀ c ∈ whole, c.isDigit = true) ∧ ∀ c ∈ fraction, c.isDigit = true := by
  by_cases point : '.' ∈ w
  · obtain ⟨whole, fraction, rfl⟩ := List.append_of_mem point
    rw [List.count_append, List.count_cons_self] at points
    have apart : '.' ∉ whole ∧ '.' ∉ fraction :=
      ⟨List.count_eq_zero.mp (by omega), List.count_eq_zero.mp (by omega)⟩
    refine .inr ⟨whole, fraction, rfl, ?_, ?_⟩
    · intro c hc
      exact isDigit_of_isNumeric (numeric c (by simp [hc])) (ne_of_mem_of_not_mem hc apart.1)
    · intro c hc
      exact isDigit_of_isNumeric (numeric c (by simp [hc])) (ne_of_mem_of_not_mem hc apart.2)
  · left
    intro c hc
    exact isDigit_of_isNumeric (numeric c hc) (ne_of_mem_of_not_mem hc point)

/-- A plain numeral is an unsigned decimal. -/
theorem isSome_ofChars? (numeric : ∀ c ∈ w, Token.isNumeric c = true) (points : w.count '.' ≤ 1)
    (digit : ∃ c ∈ w, c.isDigit = true) : (Literal.ofChars? w).isSome = true := by
  obtain ⟨d, hd, digit⟩ := digit
  rcases exists_digits_around_point numeric points with
    digits | ⟨whole, fraction, rfl, whole_digits, fraction_digits⟩
  · rw [Literal.ofChars?_digits digits (List.ne_nil_of_mem hd)]
    rfl
  · have ne : whole ≠ [] ∨ fraction ≠ [] := by
      rcases List.mem_append.mp hd with hd | hd
      · exact .inl (List.ne_nil_of_mem hd)
      · rcases List.mem_cons.mp hd with rfl | hd
        · exact absurd digit (by decide)
        · exact .inr (List.ne_nil_of_mem hd)
    rw [Literal.ofChars?_point whole_digits fraction_digits ne]
    rfl

/-- A plain numeral starts with no sign. -/
theorem readFloat?_eq_readUnsigned? (n : Numeral) :
    readFloat? n.text = readUnsigned? n.text.toList := by
  simp only [readFloat?]
  split
  · next r sign =>
    exact absurd (n.numeric '-' (by simp [sign])) (by decide)
  · next r sign =>
    exact absurd (n.numeric '+' (by simp [sign])) (by decide)
  · rfl

/-- **A plain numeral has a value.** -/
theorem isSome_readFloat? (n : Numeral) : (readFloat? n.text).isSome = true := by
  obtain ⟨l, decimal⟩ := Option.isSome_iff_exists.mp (isSome_ofChars? n.numeric n.points n.digit)
  rw [readFloat?_eq_readUnsigned?, readUnsigned?, decimal]
  rfl

/-- The value of a numeral. -/
def Numeral.value (n : Numeral) : Float :=
  (readFloat? n.text).get (isSome_readFloat? n)

theorem Numeral.readFloat?_text (n : Numeral) : readFloat? n.text = some n.value :=
  (Option.some_get _).symm

theorem Numeral.readUnsigned?_text (n : Numeral) : readUnsigned? n.text.toList = some n.value := by
  rw [← readFloat?_eq_readUnsigned?, n.readFloat?_text]

end DeskCalculator.Number
