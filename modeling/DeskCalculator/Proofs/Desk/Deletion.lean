import DeskCalculator.Desk.Entry
import Mathlib.Data.List.DropRight
import Mathlib.Data.List.Infix
import Mathlib.Logic.Function.Iterate

/-!
# The deletion of a symbol

The deletion works on the bare text of an entry, however the text came to be there. It takes away the
spaces at the end, then one symbol, then the spaces that stood before it. Where several names end the
text, one of them ends the others, and the symbol is the longest of them. The search finds it because
it comes first: no name in the list ends a later one.

## Main definitions

* `Desk.LosesEndSpaces`, `Desk.LosesSymbol`: what a text is without the spaces, or without the
  symbol, at its end

## Main results

* `Desk.length_le_of_find?`: the name that is found is the longest one
* `Desk.losesSymbol_dropLastSymbol`: the text loses its last symbol
* `Desk.length_deleteSymbol_lt`: a deletion shortens an entry
* `Desk.deleteLast_takes_longest`: what a deletion does to any entry, and what many do
-/

namespace DeskCalculator.Desk

/-! ## What a text loses -/

/-- `t` is `s` without the spaces at its end. -/
structure LosesEndSpaces (s t : List Char) : Prop where
  spaces : ∃ n, s = t ++ List.replicate n ' '
  no_space : t.getLast? ≠ some ' '

/-- `t` is `s` without the symbol at its end: the longest of the whole symbols that `s` ends in, or a
single character if it ends in none. -/
inductive LosesSymbol : List Char → List Char → Prop
  | whole {t : List Char} {v : String} (mem : v ∈ wholeSymbols)
      (longest : ∀ w ∈ wholeSymbols, w.toList <:+ t ++ v.toList → w.length ≤ v.length) :
      LosesSymbol (t ++ v.toList) t
  | character {t : List Char} {c : Char} (none : ∀ w ∈ wholeSymbols, ¬w.toList <:+ t ++ [c]) :
      LosesSymbol (t ++ [c]) t
  | nothing : LosesSymbol [] []

section Loses

variable {s t : List Char}

theorem LosesEndSpaces.isPrefix (h : LosesEndSpaces s t) : t <+: s := by
  obtain ⟨n, rfl⟩ := h.spaces
  exact List.prefix_append t _

theorem LosesSymbol.isPrefix (h : LosesSymbol s t) : t <+: s := by
  cases h with
  | whole | character => exact List.prefix_append t _
  | nothing => exact List.prefix_rfl

theorem ne_empty_of_mem_wholeSymbols {v : String} (h : v ∈ wholeSymbols) : 0 < v.length := by
  have all : ∀ v ∈ wholeSymbols, 0 < v.length := by decide
  exact all v h

/-- A text that is not empty has a symbol to lose. -/
theorem LosesSymbol.length_lt (h : LosesSymbol s t) (ne : s ≠ []) : t.length < s.length := by
  cases h with
  | whole mem =>
    have some_letter := ne_empty_of_mem_wholeSymbols mem
    rw [List.length_append, String.length_toList]
    omega
  | character => simp
  | nothing => exact absurd rfl ne

end Loses

/-! ## What the deletion takes -/

theorem losesEndSpaces_dropEndSpaces (s : List Char) : LosesEndSpaces s (dropEndSpaces s) := by
  induction s using List.reverseRecOn with
  | nil => exact ⟨⟨0, rfl⟩, nofun⟩
  | append_singleton s c ih =>
    rw [dropEndSpaces, Text.dropEndWhile_concat]
    split
    · next space =>
      obtain rfl := beq_iff_eq.mp space
      obtain ⟨n, eq⟩ := ih.spaces
      refine ⟨⟨n + 1, ?_⟩, ih.no_space⟩
      rw [List.replicate_succ', ← List.append_assoc]
      exact congrArg (· ++ [' ']) eq
    · next solid =>
      refine ⟨⟨0, (List.append_nil _).symm⟩, ?_⟩
      rw [List.getLast?_concat]
      rintro ⟨⟩
      exact solid rfl

/-- A name stands in the list before every other one that it ends in. -/
theorem pairwise_wholeSymbols : wholeSymbols.Pairwise fun v w => ¬v.toList <:+ w.toList := by
  decide

/-- The name that is found is the longest one. -/
theorem length_le_of_find? {s : List Char} {v w : String}
    (found : (wholeSymbols.find? fun v => v.toList.isSuffixOf s) = some v)
    (mem : w ∈ wholeSymbols) (ends : w.toList <:+ s) : w.length ≤ v.length := by
  obtain ⟨found_ends, before, after, list, missed⟩ := List.find?_eq_some_iff_append.mp found
  rw [List.isSuffixOf_iff_suffix] at found_ends
  have ordered := pairwise_wholeSymbols
  rw [list, List.pairwise_append, List.pairwise_cons] at ordered
  rw [list] at mem
  rcases List.mem_append.mp mem with earlier | later
  · have no_end := missed w earlier
    rw [List.isSuffixOf_iff_suffix.mpr ends] at no_end
    cases no_end
  · rcases List.mem_cons.mp later with rfl | later
    · exact le_rfl
    · -- the found name does not end a later one, so the later one ends it
      rcases List.suffix_or_suffix_of_suffix found_ends ends with shorter | longer
      · exact absurd shorter (ordered.2.1.1 w later)
      · rw [← String.length_toList, ← String.length_toList]
        exact longer.length_le

theorem losesSymbol_dropLastSymbol (s : List Char) : LosesSymbol s (dropLastSymbol s) := by
  unfold dropLastSymbol
  cases found : wholeSymbols.find? fun w => w.toList.isSuffixOf s with
  | some v =>
    have ends : v.toList.isSuffixOf s = true := by simpa using List.find?_some found
    obtain ⟨t, rfl⟩ := List.isSuffixOf_iff_suffix.mp ends
    show LosesSymbol _ ((t ++ v.toList).take ((t ++ v.toList).length - v.toList.length))
    rw [List.length_append, Nat.add_sub_cancel, List.take_left]
    exact .whole (List.mem_of_find?_eq_some found) fun w => length_le_of_find? found
  | none =>
    rcases List.eq_nil_or_concat s with rfl | ⟨t, c, rfl⟩
    · exact .nothing
    · rw [List.concat_eq_append, List.dropLast_concat]
      refine .character fun w mem ends => ?_
      exact List.find?_eq_none.mp found w mem
        (List.isSuffixOf_iff_suffix.mpr (List.concat_eq_append ▸ ends))

/-! ## Entries -/

theorem toList_deleteSymbol (e : String) :
    (deleteSymbol e).toList = dropEndSpaces (dropLastSymbol (dropEndSpaces e.toList)) :=
  String.toList_ofList

theorem isPrefix_deleteSymbol (e : String) : (deleteSymbol e).toList <+: e.toList := by
  rw [toList_deleteSymbol]
  exact (losesEndSpaces_dropEndSpaces _).isPrefix.trans
    ((losesSymbol_dropLastSymbol _).isPrefix.trans (losesEndSpaces_dropEndSpaces _).isPrefix)

/-- A deletion shortens an entry, if only by its spaces. -/
theorem length_deleteSymbol_lt {e : String} (ne : e ≠ "") : (deleteSymbol e).length < e.length := by
  have before := (losesEndSpaces_dropEndSpaces e.toList).isPrefix.length_le
  have after := (losesEndSpaces_dropEndSpaces (dropLastSymbol (dropEndSpaces e.toList))).isPrefix
  rw [← toList_deleteSymbol] at after
  rw [← String.length_toList, ← String.length_toList]
  by_cases blank : dropEndSpaces e.toList = []
  · rw [toList_deleteSymbol, blank]
    exact List.length_pos_iff.mpr fun none => ne (String.toList_eq_nil_iff.mp none)
  · have symbol := (losesSymbol_dropLastSymbol (dropEndSpaces e.toList)).length_lt blank
    exact after.length_le.trans_lt (symbol.trans_le before)

/-- As many deletions as there are characters leave nothing. -/
theorem entry_iterate_deleteLast {n : Nat} {d : Desk} (enough : d.entry.length ≤ n) :
    (deleteLast^[n] d).entry = "" := by
  induction n generalizing d with
  | zero => exact String.length_eq_zero_iff.mp (Nat.le_zero.mp enough)
  | succ n ih =>
    rw [Function.iterate_succ_apply]
    apply ih
    by_cases empty : d.entry = ""
    · rw [deleteLast, empty]
      exact Nat.zero_le n
    · exact Nat.le_of_lt_succ ((length_deleteSymbol_lt empty).trans_le enough)

/-- **A deletion takes the longest symbol.** Whatever the entry and its mode, it loses the spaces at
its end, then the longest whole symbol that it ends in, or a single character, and then the spaces
that are at its end now. What stays is the beginning of the entry, does not end in a space, and is
shorter than the entry was. So as many deletions as the entry has characters leave nothing of it. -/
theorem deleteLast_takes_longest (d : Desk) :
    let after := d.deleteLast
    (∃ s t, LosesEndSpaces d.entry.toList s ∧ LosesSymbol s t ∧
      LosesEndSpaces t after.entry.toList) ∧
    after = { d with entry := after.entry } ∧
    after.entry.toList <+: d.entry.toList ∧ after.entry.toList.getLast? ≠ some ' ' ∧
    (d.entry ≠ "" → after.entry.length < d.entry.length) ∧
    ∀ n, d.entry.length ≤ n → (deleteLast^[n] d).entry = "" := by
  intro after
  have result : after.entry.toList = _ := toList_deleteSymbol d.entry
  refine ⟨⟨_, _, losesEndSpaces_dropEndSpaces _, losesSymbol_dropLastSymbol _, ?_⟩, rfl,
    isPrefix_deleteSymbol d.entry, ?_, length_deleteSymbol_lt, fun n => entry_iterate_deleteLast⟩
  · rw [result]
    exact losesEndSpaces_dropEndSpaces _
  · rw [result]
    exact (losesEndSpaces_dropEndSpaces _).no_space

/-- Of two names at the end the longer one goes as a whole, with the spaces on both sides of it. -/
theorem deleteLast_takes_longest_asin :
    let d : Desk := { Desk.start .standard with entry := "2 * asin( " }
    "sin(" ∈ wholeSymbols ∧ "asin(" ∈ wholeSymbols ∧
    (∃ s t, LosesEndSpaces "2 * asin( ".toList s ∧ LosesSymbol s t ∧
      LosesEndSpaces t "2 *".toList) ∧
    d.deleteLast.entry = "2 *" ∧ (deleteLast^[10] d).entry = "" := by
  intro d
  have after : d.deleteLast.entry = "2 *" := by decide +kernel
  obtain ⟨loses, -, -, -, -, all⟩ := deleteLast_takes_longest d
  rw [after] at loses
  exact ⟨by decide, by decide, loses, after, all 10 (by decide)⟩

end DeskCalculator.Desk
