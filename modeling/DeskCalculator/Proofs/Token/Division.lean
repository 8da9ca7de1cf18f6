import DeskCalculator.Proofs.Token.Reading
import Mathlib.Data.List.TakeWhile

/-!
# Reading a divided text

A sign ends the number or the word before it. What stands in front of it is therefore read as it is
alone, whatever follows, and behind a sign that is no minus sign the reading starts anew: the sign
itself decides what the next minus sign means.

## Main definitions

* `Lexer.Divides`: the continuations that take no part in a token before them
* `Lexer.append`: a place in a text that goes on

## Main results

* `Lexer.next_append`: the next token does not depend on a continuation that divides
* `Lexer.exists_scan_append`: a text in front of such a continuation is read as it is alone
* `Lexer.scan_append_sign`: what is read of a text, a sign, and a further text
-/

namespace DeskCalculator

namespace Lexer

/-- A continuation of a text that takes no part in a number or a word before it. -/
def Divides (r : List Char) : Prop :=
  ∀ c ∈ r.head?, Token.isNumeric c = false ∧ isNameLetter c = false

/-- The same place, in a text that goes on with `r`. -/
def append (l : Lexer) (r : List Char) : Lexer :=
  { l with rest := l.rest ++ r }

theorem divides_sign {c : Char} {t : Token} {r : List Char} (sign : Token.ofSign? c = some t) :
    Divides (c :: r) := by
  intro d hd
  obtain rfl : c = d := Option.some.inj hd
  exact ⟨Token.isNumeric_of_ofSign? sign, isNameLetter_of_ofSign? sign⟩

/-- Only blanks are left where there is no token any more. -/
theorem blank_of_next {l l' : Lexer} (h : l.next = (none, l')) :
    ∀ c ∈ l.rest, Text.isBlank c = true := by
  rcases next_cases h with ⟨-, ended, -⟩ | ⟨failed, -⟩ | ⟨t, rest, read, -⟩
  · exact List.dropWhile_eq_nil_iff.mp ended
  · cases failed
  · cases read

section Divided

variable {r : List Char} (divided : Divides r)

include divided

theorem spanNumber_append_of_divides (seen : Bool) (s : List Char) :
    spanNumber seen (s ++ r) = ((spanNumber seen s).1, (spanNumber seen s).2 ++ r) := by
  induction s generalizing seen with
  | nil =>
    rcases r with _ | ⟨c, r⟩
    · rfl
    · obtain ⟨digit, point⟩ : c.isDigit = false ∧ c ≠ '.' := by
        simpa [Token.isNumeric] using (divided c rfl).1
      simp [spanNumber, digit, point]
  | cons c s ih =>
    simp only [List.cons_append, spanNumber]
    split
    · simp [ih]
    · split
      · simp [ih]
      · rfl

theorem takeWhile_dropWhile_append_of_divides (s : List Char) :
    (s ++ r).takeWhile isNameLetter = s.takeWhile isNameLetter ∧
      (s ++ r).dropWhile isNameLetter = s.dropWhile isNameLetter ++ r := by
  induction s with
  | nil =>
    rcases r with _ | ⟨c, r⟩
    · exact ⟨rfl, rfl⟩
    · simp [(divided c rfl).2]
  | cons c s ih =>
    by_cases letter : isNameLetter c = true
    · simp [letter, ih]
    · simp [letter]

theorem firstToken?_append {bound : Bool} {s rest : List Char} {t : Token}
    (h : firstToken? bound s = some (t, rest)) :
    firstToken? bound (s ++ r) = some (t, rest ++ r) := by
  rcases s with _ | ⟨c, s⟩
  · cases h
  · obtain ⟨letters, others⟩ := takeWhile_dropWhile_append_of_divides divided s
    have number := spanNumber_append_of_divides divided false (c :: s)
    rw [List.cons_append] at number ⊢
    simp only [firstToken?, number, letters, others] at h ⊢
    split at h
    · simp_all
    · split at h
      · simp_all
      · split at h
        · simp_all
        · split at h <;> simp_all

/-- The next token does not depend on how a text goes on behind it. -/
theorem next_append {l l' : Lexer} {t : Token} (h : l.next = (some (.ok t), l')) :
    (l.append r).next = (some (.ok t), l'.append r) := by
  obtain ⟨rest, first, apart, rfl⟩ := firstToken?_of_next h
  have more : l.rest.dropWhile Text.isBlank ≠ [] := by
    intro none
    rw [none] at first
    cases first
  have skip : (l.rest ++ r).dropWhile Text.isBlank = l.rest.dropWhile Text.isBlank ++ r := by
    rw [List.dropWhile_append, if_neg (by simpa using more)]
  have start : (l.rest ++ r).head? = l.rest.head? := by
    have ne : l.rest ≠ [] := by
      rintro none
      exact more (by rw [none]; rfl)
    obtain ⟨c, s, eq⟩ := List.exists_cons_of_ne_nil ne
    rw [eq]
    rfl
  simp [next, append, skip, start, more, firstToken?_append divided first, apart, after]

/-- **A text in front of a continuation that divides is read as it is alone.** If it can be read to
its end, the reading goes on from some place at the start of the continuation. -/
theorem exists_scan_append {l : Lexer} (read : l.scan.failure = none) :
    ∃ bound afterNumber, (l.append r).scan =
      let s := scan ⟨r, bound, afterNumber⟩
      ⟨l.scan.tokens ++ s.tokens, s.failure⟩ := by
  induction l using scan_induction with
  | ended l l' h =>
    have blank := blank_of_next h
    rw [scan_of_end h]
    by_cases none : l.rest = []
    · exact ⟨l.bound, l.afterNumber, by simp [append, none]⟩
    · exact ⟨l.bound, false, scan_blanks blank none⟩
  | failed l l' e h => simp [scan_of_failure h] at read
  | token l l' t h ih =>
    rw [scan_of_token h] at read ⊢
    obtain ⟨bound, afterNumber, rest⟩ := ih read
    refine ⟨bound, afterNumber, ?_⟩
    rw [scan_of_token (next_append divided h), rest]
    rfl

end Divided

/-- **What is read of a text, a sign, and a further text.** If the first text can be read to its
end, its tokens come first, then the sign, then what is read behind it. -/
theorem scan_append_sign {l : Lexer} (read : l.scan.failure = none) {c : Char} {t : Token}
    (sign : Token.ofSign? c = some t) (minus : c ≠ '-') (r : List Char) :
    (l.append (c :: r)).scan =
      let s := scan ⟨r, t.completesOperand, false⟩
      ⟨l.scan.tokens ++ t :: s.tokens, s.failure⟩ := by
  obtain ⟨bound, afterNumber, eq⟩ := exists_scan_append (divides_sign sign (r := r)) read
  rw [eq, scan_sign sign fun hc => absurd hc minus]

end Lexer

end DeskCalculator
