import DeskCalculator.Proofs.Desk.Deletion
import DeskCalculator.Proofs.Desk.Pad
import DeskCalculator.Proofs.Desk.Polish

/-!
# Undoing a key in postfix form

The deletion knows the functions by the names with a bracket that they have in an expression. In
postfix form they are written without one, so that only the last letter of a name goes. Every other
key is taken back as a whole, since no symbol that is deleted as a whole reaches over the border in
front of a key.

## Main definitions

* `Desk.TypedBehind`: what stands in front of a key in postfix form

## Main results

* `Desk.dropLastSymbol_behind`: the symbol at the end lies in what the last key has written
* `Desk.deleteSymbol_insertPiece`: what a deletion leaves of an entry and the key behind it
* `Window.entry_behind_deletion`: which keys are taken back, and what stays of the others
* `Window.deletion_leaves_letters`: a function that is not taken back
-/

namespace DeskCalculator

namespace Desk

/-! ## In front of a key -/

/-- `s` is an entry as it stands in front of a key: with a space behind it, or as it is if it is
empty or the key belongs to a number. -/
structure TypedBehind (entry : String) (k : PadKey) (s : List Char) : Prop where
  insertPiece_eq : (insertPiece .polish entry (k.piece .polish)).toList =
    s ++ (k.piece .polish).toList
  spaces : dropEndSpaces s = dropEndSpaces entry.toList
  border : s = [] ∨ s.getLast? = some ' ' ∨ k.isNumeric = true

theorem exists_typedBehind (entry : String) (k : PadKey) : ∃ s, TypedBehind entry k s := by
  by_cases apart : entry ≠ "" ∧ ((k.piece .polish).toList.all Token.isNumeric &&
      entry.toList.getLast?.any Token.isNumeric) = false
  · refine ⟨entry.toList ++ [' '], ?_, ?_, .inr (.inl List.getLast?_concat)⟩
    · rw [insertPiece, if_pos ⟨rfl, apart⟩, String.toList_append, String.toList_append]
      rfl
    · exact Text.dropEndWhile_concat _ _ _
  · refine ⟨entry.toList, ?_, rfl, ?_⟩
    · rw [insertPiece, if_neg fun all => apart all.2, String.toList_append]
    · rw [not_and_or, not_not, Bool.not_eq_false, Bool.and_eq_true, k.piece_numeric.1] at apart
      rcases apart with rfl | ⟨numeric, -⟩
      exacts [.inl rfl, .inr (.inr numeric)]

/-- There is neither a space nor a part of a number in a symbol that is deleted as a whole. -/
theorem of_mem_toList_wholeSymbols {v : String} (h : v ∈ wholeSymbols) :
    ∀ c ∈ v.toList, c ≠ ' ' ∧ Token.isNumeric c = false := by
  have all : wholeSymbols.all (fun v => v.toList.all fun c => c != ' ' && !Token.isNumeric c) =
      true := by
    decide +kernel
  intro c hc
  simpa using List.all_eq_true.mp (List.all_eq_true.mp all v h) c hc

section Behind

variable {entry : String} {k : PadKey} {s : List Char}

/-- No symbol reaches over the border in front of a key. -/
theorem TypedBehind.suffix_piece (h : TypedBehind entry k s) {v : String} (mem : v ∈ wholeSymbols)
    (ends : v.toList <:+ s ++ (k.piece .polish).toList) :
    v.toList <:+ (k.piece .polish).toList := by
  rcases List.suffix_or_suffix_of_suffix ends (List.suffix_append _ _) with inside | ⟨u, eq⟩
  · exact inside
  · have front : u <:+ s := by
      rw [← eq] at ends
      exact List.suffix_append_self_iff.mp ends
    rcases List.eq_nil_or_concat u with rfl | ⟨u, c, rfl⟩
    · exact ⟨[], eq.symm⟩
    · exfalso
      rw [List.concat_eq_append] at eq front
      rcases h.border with rfl | space | numeric
      · exact absurd (List.suffix_nil.mp front) (by simp)
      · obtain ⟨t, rfl⟩ := front
        rw [← List.append_assoc, List.getLast?_concat, Option.some.injEq] at space
        exact (of_mem_toList_wholeSymbols mem c (by simp [← eq])).1 space
      · obtain ⟨d, rest, piece⟩ := List.exists_cons_of_ne_nil k.piece_ne_nil
        have digit := k.piece_numeric.1.trans numeric
        rw [piece, List.all_cons, Bool.and_eq_true] at digit
        have none := (of_mem_toList_wholeSymbols mem d (by simp [← eq, piece])).2
        exact absurd digit.1 (by simp [none])

theorem dropLastSymbol_behind (h : TypedBehind entry k s) :
    dropLastSymbol (s ++ (k.piece .polish).toList) =
      s ++ dropLastSymbol (k.piece .polish).toList :=
  dropLastSymbol_append k.piece_ne_nil fun _ => h.suffix_piece

end Behind

/-- What a deletion leaves of what a key has written. -/
theorem dropLastSymbol_piece_polish (k : PadKey) : k ≠ .space →
    dropLastSymbol (k.piece .polish).toList =
      match k with
      | .function f => f.name.toList.dropLast
      | _ => [] := by
  intro solid
  cases k with
  | digit d => revert d; decide
  | function f => cases f <;> rfl
  | sign s => cases s <;> rfl
  | space => exact absurd rfl solid
  | _ => rfl

/-- What a key has written does not end in a space, nor does what is left of a name. -/
theorem dropEndSpaces_behind {k : PadKey} (solid : k ≠ .space) (s : List Char) :
    dropEndSpaces (s ++ (k.piece .polish).toList) = s ++ (k.piece .polish).toList := by
  refine Text.dropEndWhile_eq_self fun c last => beq_eq_false_iff_ne.mpr ?_
  rintro rfl
  rw [List.getLast?_append_of_ne_nil _ k.piece_ne_nil] at last
  exact absurd ((PadKey.isWord_piece solid).not_blank ' ' (List.mem_of_getLast? last)) (by decide)

/-- **What a deletion leaves** of an entry and the key behind it. -/
theorem deleteSymbol_insertPiece (entry : String) {k : PadKey} (solid : k ≠ .space) :
    ∃ s, TypedBehind entry k s ∧
      (deleteSymbol (insertPiece .polish entry (k.piece .polish))).toList =
        dropEndSpaces (s ++ dropLastSymbol (k.piece .polish).toList) := by
  obtain ⟨s, behind⟩ := exists_typedBehind entry k
  refine ⟨s, behind, ?_⟩
  rw [toList_deleteSymbol, behind.insertPiece_eq, dropEndSpaces_behind solid,
    dropLastSymbol_behind behind]

/-- A key that is no function is taken back. -/
theorem deleteSymbol_insertPiece_of_ne (entry : String) {k : PadKey} (solid : k ≠ .space)
    (other : ∀ f, k ≠ .function f) :
    deleteSymbol (insertPiece .polish entry (k.piece .polish)) =
      String.ofList (dropEndSpaces entry.toList) := by
  obtain ⟨s, behind, left⟩ := deleteSymbol_insertPiece entry solid
  have nothing : dropLastSymbol (k.piece .polish).toList = [] := by
    rw [dropLastSymbol_piece_polish k solid]
    cases k with
    | function f => exact absurd rfl (other f)
    | _ => rfl
  rw [nothing, List.append_nil, behind.spaces] at left
  rw [← left, String.ofList_toList]

/-- Of a function all letters but the last stay. -/
theorem deleteSymbol_insertPiece_name (entry : String) (f : NamedFunction) :
    (deleteSymbol (insertPiece .polish entry f.name)).toList =
        (insertPiece .polish entry f.name).toList.dropLast ∧
      dropEndSpaces (deleteSymbol (insertPiece .polish entry f.name)).toList ≠
        dropEndSpaces entry.toList := by
  have name : f.name.toList ≠ [] := (PadKey.function f).piece_ne_nil
  have isName : PadKey.function f ≠ .space := nofun
  obtain ⟨s, behind, left⟩ := deleteSymbol_insertPiece entry isName
  have letters : f.name.toList.dropLast ≠ [] ∧ ' ' ∉ f.name.toList.dropLast := by
    cases f <;> decide
  rw [dropLastSymbol_piece_polish _ isName] at left
  have solid : dropEndSpaces (s ++ f.name.toList.dropLast) = s ++ f.name.toList.dropLast := by
    refine Text.dropEndWhile_eq_self fun c last => beq_eq_false_iff_ne.mpr ?_
    rintro rfl
    rw [List.getLast?_append_of_ne_nil _ letters.1] at last
    exact letters.2 (List.mem_of_getLast? last)
  have left : (deleteSymbol (insertPiece .polish entry f.name)).toList =
      s ++ f.name.toList.dropLast := left.trans solid
  have written : (insertPiece .polish entry f.name).toList = s ++ f.name.toList :=
    behind.insertPiece_eq
  refine ⟨?_, fun same => ?_⟩
  · rw [left, written, List.dropLast_append_of_ne_nil name]
  · rw [left, solid, ← behind.spaces] at same
    have shorter := (losesEndSpaces_dropEndSpaces s).isPrefix.length_le
    rw [← same, List.length_append] at shorter
    have longer := List.length_pos_iff.mpr letters.1
    omega

end Desk

namespace Window

variable {T : Toolkit} {w : Window T}

theorem entry_perform_key (w : Window T) (k : PadKey) :
    (w.perform (.click k.label)).1.desk.entry =
      Desk.insertPiece w.desk.mode w.desk.entry (k.piece w.desk.mode) := by
  obtain ⟨n, focus, clicked⟩ := w.exists_desk_frame_click (.pad k)
  rw [perform_key, clicked]
  rfl

theorem entry_perform_delete (w : Window T) :
    (w.perform (.click Control.delete.label)).1.desk.entry = Desk.deleteSymbol w.desk.entry := by
  obtain ⟨n, focus, clicked⟩ := w.exists_desk_frame_click .delete
  rw [perform_click_label (c := .delete) (.inr rfl), clicked]
  rfl

/-- **Which keys are taken back.** In postfix form `DEL` right behind a key leaves the entry as it
was before, but for spaces at its end, if the key is no function. Of a function, however, only the
last letter of its name goes, so that the entry is not as it was before. -/
theorem entry_behind_deletion (mode : w.desk.mode = .polish) {k : PadKey} (solid : k ≠ .space) :
    let typed := (w.perform (.click k.label)).1
    let after := (typed.perform (.click Control.delete.label)).1
    ((∀ f, k ≠ .function f) →
      after.desk.entry = String.ofList (Desk.dropEndSpaces w.desk.entry.toList)) ∧
    ∀ f, k = .function f →
      after.desk.entry.toList = typed.desk.entry.toList.dropLast ∧
        Desk.dropEndSpaces after.desk.entry.toList ≠ Desk.dropEndSpaces w.desk.entry.toList := by
  intro typed after
  have entry : typed.desk.entry = Desk.insertPiece .polish w.desk.entry (k.piece .polish) := by
    rw [← mode]
    exact w.entry_perform_key k
  have deleted : after.desk.entry = Desk.deleteSymbol typed.desk.entry := typed.entry_perform_delete
  rw [deleted, entry]
  refine ⟨Desk.deleteSymbol_insertPiece_of_ne _ solid, ?_⟩
  rintro f rfl
  exact Desk.deleteSymbol_insertPiece_name _ f

/-- Behind a number the constant is taken back, and the exponential is not. -/
theorem entry_behind_deletion_exp :
    let w : Window .plain := (start .standard).performAll [.click (Control.mode .polish).label, .click "2"]
    let delete (k : PadKey) := w.performAll [.click k.label, .click Control.delete.label]
    w.desk.mode = .polish ∧ (delete .pi).desk.entry = "2" ∧
      Desk.dropEndSpaces (delete (.function .exp)).desk.entry.toList ≠
        Desk.dropEndSpaces w.desk.entry.toList := by
  intro w delete
  have mode : w.desk.mode = .polish := by decide +kernel
  have entry : w.desk.entry = "2" := by decide +kernel
  refine ⟨mode, ?_, ?_⟩
  · have taken := (entry_behind_deletion mode (k := .pi) nofun).1 nofun
    rw [entry] at taken
    exact taken
  · exact ((entry_behind_deletion mode (k := .function .exp) nofun).2 .exp rfl).2

/-- A function is not taken back: behind a number, `asin` and `DEL` leave three letters. -/
theorem deletion_leaves_letters :
    let w : Window .plain := ((start .standard).perform (.click (Control.mode .polish).label)).1
    let before := w.performAll [.click (PadKey.digit 2).label]
    let after := before.performAll
      [.click (PadKey.function .asin).label, .click Control.delete.label]
    w.desk.mode = .polish ∧ w.desk.entry = "" ∧ before.desk.entry = "2" ∧
      after.desk.entry = "2 asi" ∧
      Desk.dropEndSpaces after.desk.entry.toList ≠ Desk.dropEndSpaces before.desk.entry.toList := by
  decide +kernel

end Window

end DeskCalculator
