import DeskCalculator.Proofs.Token.Isolated
import Mathlib.Data.List.DropRight

/-!
# Words with blanks around them

To trim a text is to find the word that it wraps in blanks, if it holds only one.

## Main definitions

* `Text.Wraps`: a text is another one with blanks around it
* `Text.Says`: a text wraps a word, in whatever case

## Main results

* `Text.wraps_trim`, `Text.trim_of_wraps`: a trimmed text is the word that it wraps
* `Text.lowerCase_trim_eq_iff_says`: the same for a word in lower case
-/

namespace DeskCalculator.Text

variable {s core word : String}

/-- A text is `core` with blanks around it. -/
def Wraps (s core : String) : Prop :=
  ∃ before after : List Char, s.toList = before ++ core.toList ++ after ∧
    (∀ c ∈ before, isBlank c = true) ∧ ∀ c ∈ after, isBlank c = true

/-- Blanks around a text are all that trimming takes away. -/
theorem wraps_trim (s : String) : Wraps s (trim s) := by
  let rest := s.toList.dropWhile isBlank
  refine ⟨s.toList.takeWhile isBlank, rest.rtakeWhile isBlank, ?_, ?_, ?_⟩
  · calc s.toList
      _ = s.toList.takeWhile isBlank ++ rest := List.takeWhile_append_dropWhile.symm
      _ = s.toList.takeWhile isBlank ++ (rest.rdropWhile isBlank ++ rest.rtakeWhile isBlank) := by
        rw [List.rdropWhile_append_rtakeWhile]
      _ = _ := by
        rw [trim, String.toList_ofList, List.append_assoc]
        rfl
  · intro c hc
    exact List.all_eq_true.mp List.all_takeWhile c hc
  · intro c hc
    exact List.mem_rtakeWhile_imp hc

/-- **A trimmed text is the word that it wraps.** -/
theorem trim_of_wraps (solid : IsWord core) (h : Wraps s core) : trim s = core := by
  obtain ⟨before, after, text, blank_before, blank_after⟩ := h
  -- the first character of the word stops trimming at the front, the last one at the end
  have front : s.toList.dropWhile isBlank = core.toList ++ after := by
    obtain ⟨c, r, first⟩ := List.exists_cons_of_ne_nil solid.ne_nil
    have stays : isBlank c = false := solid.not_blank c (by simp [first])
    rw [text, List.append_assoc, List.dropWhile_append_of_pos blank_before, first, List.cons_append,
      List.dropWhile_cons_of_neg (by simp [stays])]
  have back : dropEndWhile isBlank (core.toList ++ after) = core.toList := by
    have gone : dropEndWhile isBlank after = [] := List.rdropWhile_eq_nil_iff.mpr blank_after
    obtain ⟨r, c, last⟩ := (List.eq_nil_or_concat core.toList).resolve_left solid.ne_nil
    have stays : isBlank c = false := solid.not_blank c (by simp [last])
    rw [last, List.concat_eq_append, List.append_assoc, List.singleton_append,
      dropEndWhile_append_cons stays, gone]
  rw [trim, front, back, String.ofList_toList]

/-! ## In lower case -/

/-- A text wraps a word that is `word` but for capital letters. -/
def Says (s word : String) : Prop :=
  ∃ core, Wraps s core ∧ lowerCase core = word

/-- A blank is no capital letter. -/
theorem toLower_of_isBlank {c : Char} (blank : isBlank c = true) : c.toLower = c := by
  apply dif_neg
  rintro ⟨first, last⟩
  have first : 65 ≤ c.toNat := UInt32.le_iff_toNat_le.mp first
  have last : c.toNat ≤ 90 := UInt32.le_iff_toNat_le.mp last
  simp only [isBlank, Bool.or_eq_true, Bool.and_eq_true, decide_eq_true_eq, beq_iff_eq] at blank
  omega

theorem isWord_of_lowerCase (solid : IsWord (lowerCase core)) : IsWord core := by
  constructor
  · intro none
    exact solid.ne_nil (by simp [lowerCase, none])
  · intro c hc
    by_contra blank
    have lower : c.toLower = c := toLower_of_isBlank (by simpa using blank)
    have member : c ∈ (lowerCase core).toList := by
      rw [lowerCase, String.toList_ofList]
      exact List.mem_map.mpr ⟨c, hc, lower⟩
    exact blank (solid.not_blank c member)

theorem lowerCase_trim_eq_iff_says (solid : IsWord word) :
    lowerCase (trim s) = word ↔ Says s word := by
  constructor
  · intro same
    exact ⟨trim s, wraps_trim s, same⟩
  · rintro ⟨core, wraps, rfl⟩
    rw [trim_of_wraps (isWord_of_lowerCase solid) wraps]

end DeskCalculator.Text
