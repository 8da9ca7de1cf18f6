import DeskCalculator.Proofs.Desk.Drawing
import Mathlib.Data.List.Chain
import Mathlib.Data.List.Find
import Mathlib.Data.List.Infix

/-!
# Typing an expression

In an expression the keys of the pad write pieces one behind the other, and the deletion of the last
symbol takes the last piece away again, with the spaces around it. Both work on the bare text. They
agree because no symbol reaches over the border of two pieces: in a symbol a letter that can end a
piece is followed by one that starts none.

## Main definitions

* `PadKey.text`: the text that a row of keys writes
* `PadKey.deleteLast`: a row of keys without the last one that is not the space
* `Stroke`, `Stroke.apply`: the clicks that type an entry, and what they make of a row of keys

## Main results

* `Desk.dropLastSymbol_append`: the symbol at the end of a text lies in its last part
* `Desk.deleteSymbol_text`: the deletion of a symbol takes away a key
* `Window.entry_of_strokes`: the entry is what the remaining keys write
-/

namespace DeskCalculator

open Lexer (isNameLetter)

/-! ## Rows of keys -/

namespace PadKey

/-- What a row of keys writes in an expression. -/
def text (keys : List PadKey) : String :=
  String.join (keys.map (piece .expression))

/-- A row of keys without the space keys at its end. -/
def dropSpaces (keys : List PadKey) : List PadKey :=
  Text.dropEndWhile (· == space) keys

/-- A row of keys without the last one that is no space key, and the space keys around it. -/
def deleteLast (keys : List PadKey) : List PadKey :=
  dropSpaces (dropSpaces keys).dropLast

theorem text_concat (keys : List PadKey) (k : PadKey) :
    text (keys ++ [k]) = text keys ++ k.piece .expression := by
  simp [text]

/-- A piece ends in no letter but that of the constant, and in no space but that of the space
key. -/
theorem exists_piece_eq_concat (k : PadKey) :
    ∃ u c, (k.piece .expression).toList = u ++ [c] ∧ (isNameLetter c = true → c = 'i') ∧
      (k ≠ space → c ≠ ' ') := by
  cases k with
  | digit d =>
    refine ⟨[], d.val.digitChar, ?_, ?_, ?_⟩ <;> revert d <;> decide
  | function f =>
    refine ⟨f.name.toList, '(', ?_, by decide, by simp⟩
    simp [piece]
  | sign s => cases s <;> exact ⟨[], _, rfl, by decide, by decide⟩
  | pi => exact ⟨['p'], 'i', rfl, by simp, by simp⟩
  | space => exact ⟨[], ' ', rfl, by decide, by simp⟩
  | _ => exact ⟨[], _, rfl, by decide, by decide⟩

/-- No piece starts with the letter that stands behind an `i` inside a function name. -/
theorem head?_piece_ne (k : PadKey) : (k.piece .expression).toList.head? ≠ some 'n' := by
  cases k with
  | digit d => revert d; decide
  | function f => cases f <;> decide
  | sign s => cases s <;> decide
  | _ => decide

/-- A text ends as the last of its pieces. -/
theorem of_mem_getLast?_text {keys : List PadKey} {c : Char} (h : c ∈ (text keys).toList.getLast?)
    (letter : isNameLetter c = true) : c = 'i' := by
  rcases List.eq_nil_or_concat keys with rfl | ⟨keys, k, rfl⟩
  · cases h
  · obtain ⟨u, d, eq, ends, -⟩ := k.exists_piece_eq_concat
    rw [List.concat_eq_append, text_concat, String.toList_append, eq, ← List.append_assoc,
      List.getLast?_concat] at h
    obtain rfl : d = c := Option.some.inj h
    exact ends letter

/-- The spaces at the end of a text are those of the space keys at the end of the row. -/
theorem dropEndSpaces_text (keys : List PadKey) :
    Desk.dropEndSpaces (text keys).toList = (text (dropSpaces keys)).toList := by
  induction keys using List.reverseRecOn with
  | nil => rfl
  | append_singleton keys k ih =>
    rw [text_concat, dropSpaces, Text.dropEndWhile_concat, String.toList_append]
    by_cases blank : k = space
    · subst blank
      exact (Text.dropEndWhile_concat (· == ' ') _ ' ').trans ih
    · obtain ⟨u, c, eq, -, solid⟩ := k.exists_piece_eq_concat
      rw [if_neg (by simpa using blank), text_concat, String.toList_append, eq, ← List.append_assoc,
        Desk.dropEndSpaces, Text.dropEndWhile_concat, if_neg (by simpa using solid blank)]

/-- What is left of a row of keys does not end in a space key. -/
theorem ne_space_of_dropSpaces {keys ks : List PadKey} {k : PadKey}
    (h : dropSpaces keys = ks ++ [k]) : k ≠ space := by
  have last := List.head?_dropWhile_not (· == space) keys.reverse
  rw [dropSpaces, Text.dropEndWhile, List.reverse_eq_iff, List.reverse_concat] at h
  rw [h] at last
  simpa using last

theorem deleteLast_concat {k : PadKey} (h : k ≠ space) (keys : List PadKey) :
    deleteLast (keys ++ [k]) = dropSpaces keys := by
  have whole : dropSpaces (keys ++ [k]) = keys ++ [k] := by
    rw [dropSpaces, Text.dropEndWhile_concat, if_neg (by simpa using h)]
  rw [deleteLast, whole, List.dropLast_concat]

end PadKey

/-! ## The deletion of a symbol -/

namespace Desk

/-- The symbol at the end of a text lies in the last part, if none reaches over its border. -/
theorem dropLastSymbol_append {s t : List Char} (ne : t ≠ [])
    (inside : ∀ v ∈ wholeSymbols, v.toList <:+ s ++ t → v.toList <:+ t) :
    dropLastSymbol (s ++ t) = s ++ dropLastSymbol t := by
  have same : (wholeSymbols.find? fun v => v.toList.isSuffixOf (s ++ t)) =
      wholeSymbols.find? fun v => v.toList.isSuffixOf t := by
    apply List.find?_congr
    intro v hv
    rw [Bool.eq_iff_iff, List.isSuffixOf_iff_suffix, List.isSuffixOf_iff_suffix]
    exact ⟨inside v hv, List.suffix_append_of_suffix⟩
  unfold dropLastSymbol
  rw [same]
  cases found : wholeSymbols.find? fun v => v.toList.isSuffixOf t with
  | none => exact List.dropLast_append_of_ne_nil ne
  | some v =>
    have ends : v.toList.isSuffixOf t = true := by simpa using List.find?_some found
    have le := (List.isSuffixOf_iff_suffix.mp ends).length_le
    simp only [List.length_append, Nat.add_sub_assoc le, List.take_length_add_append]

/-- Inside a symbol only letters stand before another character, and behind an `i` stands an
`n`. -/
theorem isChain_of_mem_wholeSymbols {v : String} (h : v ∈ wholeSymbols) :
    v.toList.IsChain fun c d => isNameLetter c = true ∧ (c = 'i' → d = 'n') := by
  have all : ∀ v ∈ wholeSymbols,
      v.toList.IsChain fun c d => isNameLetter c = true ∧ (c = 'i' → d = 'n') := by
    decide +kernel
  exact all v h

/-- No symbol reaches over the border of two pieces. -/
theorem suffix_piece_of_mem_wholeSymbols {keys : List PadKey} {k : PadKey} {v : String}
    (h : v ∈ wholeSymbols)
    (ends : v.toList <:+ (PadKey.text keys).toList ++ (k.piece .expression).toList) :
    v.toList <:+ (k.piece .expression).toList := by
  rcases List.suffix_or_suffix_of_suffix ends (List.suffix_append _ _) with inside | ⟨u, eq⟩
  · exact inside
  · rcases List.eq_nil_or_concat u with rfl | ⟨u, c, rfl⟩
    · exact ⟨[], eq.symm⟩
    · -- the border lies behind `c`, which ends a piece, and before `d`, which starts one
      exfalso
      obtain ⟨d, r, piece⟩ : ∃ d r, (k.piece .expression).toList = d :: r := by
        obtain ⟨w, x, concat, -⟩ := k.exists_piece_eq_concat
        exact List.exists_cons_of_ne_nil (by simp [concat])
      have chain := isChain_of_mem_wholeSymbols h
      rw [← eq, List.concat_eq_append, List.isChain_append] at chain
      obtain ⟨letter, behind⟩ := chain.2.2 c (by simp) d (by simp [piece])
      have last : c ∈ (PadKey.text keys).toList.getLast? := by
        obtain ⟨w, whole⟩ := ends
        rw [← eq, ← List.append_assoc] at whole
        rw [← List.append_cancel_right whole]
        simp
      have start := k.head?_piece_ne
      rw [piece, List.head?_cons, behind (PadKey.of_mem_getLast?_text last letter)] at start
      exact start rfl

/-- A single piece is deleted as one symbol. -/
theorem dropLastSymbol_piece {k : PadKey} (h : k ≠ .space) :
    dropLastSymbol (k.piece .expression).toList = [] := by
  cases k with
  | digit d => revert d; decide
  | function f => cases f <;> rfl
  | sign s => cases s <;> rfl
  | space => exact absurd rfl h
  | _ => rfl

/-- **The deletion of a symbol takes away a key.** -/
theorem deleteSymbol_text (keys : List PadKey) :
    deleteSymbol (PadKey.text keys) = PadKey.text (PadKey.deleteLast keys) := by
  rw [deleteSymbol, PadKey.dropEndSpaces_text, PadKey.deleteLast]
  rcases List.eq_nil_or_concat (PadKey.dropSpaces keys) with none | ⟨ks, k, some⟩
  · rw [none]
    rfl
  · rw [List.concat_eq_append] at some
    obtain ⟨u, c, piece, -⟩ := k.exists_piece_eq_concat
    rw [some, PadKey.text_concat, String.toList_append,
      dropLastSymbol_append (by simp [piece]) fun v hv => suffix_piece_of_mem_wholeSymbols hv,
      dropLastSymbol_piece (PadKey.ne_space_of_dropSpaces some), List.append_nil,
      PadKey.dropEndSpaces_text, List.dropLast_concat, String.ofList_toList]

theorem insertPiece_expression (entry piece : String) :
    insertPiece .expression entry piece = entry ++ piece := by
  simp [insertPiece]

end Desk

/-! ## Clicks -/

/-- The clicks that type an entry. -/
inductive Stroke where
  | key (k : PadKey)
  | delete
  | clear
  deriving DecidableEq, Repr

namespace Stroke

/-- The control that is clicked. -/
def control : Stroke → Control
  | key k => .pad k
  | delete => .delete
  | clear => .clearEntry

/-- The click as a step of a session. -/
def step (s : Stroke) : Step :=
  .click s.control.label

/-- What a click makes of the keys that were typed before. -/
def apply (keys : List PadKey) : Stroke → List PadKey
  | key k => keys ++ [k]
  | delete => PadKey.deleteLast keys
  | clear => []

theorem isSetting_control (s : Stroke) : s.control.isSetting = false := by
  cases s <;> rfl

end Stroke

namespace Window

variable {T : Toolkit} {w : Window T} {keys : List PadKey}

/-- The window reads its entry as an expression, and a row of keys has written it. -/
structure IsTyped (w : Window T) (keys : List PadKey) : Prop where
  mode : w.desk.mode = .expression
  entry : w.desk.entry = PadKey.text keys

theorem IsTyped.perform (h : w.IsTyped keys) (s : Stroke) :
    (w.perform s.step).1.IsTyped (s.apply keys) := by
  rw [Stroke.step, perform_click_label (.inr s.isSetting_control)]
  obtain ⟨n, focus, clicked⟩ := w.exists_desk_frame_click s.control
  constructor <;> rw [clicked]
  · rw [← h.mode]
    cases s <;>
      simp only [Stroke.control, Desk.activate, Desk.insert, Desk.deleteLast, Desk.clearEntry]
  · cases s with
    | key k =>
      show Desk.insertPiece w.desk.mode w.desk.entry (k.piece w.desk.mode) = _
      rw [h.mode, h.entry, Desk.insertPiece_expression, Stroke.apply, PadKey.text_concat]
    | delete =>
      show Desk.deleteSymbol w.desk.entry = _
      rw [h.entry, Stroke.apply, Desk.deleteSymbol_text]
    | clear => rfl

theorem IsTyped.performAll (h : w.IsTyped keys) (strokes : List Stroke) :
    (w.performAll (strokes.map Stroke.step)).IsTyped (strokes.foldl Stroke.apply keys) := by
  induction strokes generalizing w keys with
  | nil => exact h
  | cons s strokes ih => exact ih (h.perform s)

/-- **The entry is what the remaining keys write.** A key of the pad adds its piece to an
expression, `C` takes all pieces away, and `DEL` the last one that is no space, with the spaces
around it. So `DEL` right behind such a key leaves the entry as it was before, but for spaces at its
end. -/
theorem entry_of_strokes (empty : w.desk.entry = "") (mode : w.desk.mode = .expression)
    (strokes : List Stroke) :
    (w.performAll (strokes.map Stroke.step)).desk.entry =
      PadKey.text (strokes.foldl Stroke.apply []) ∧
    ∀ k ≠ PadKey.space,
      (w.performAll ((strokes ++ [Stroke.key k, Stroke.delete]).map Stroke.step)).desk.entry =
        String.ofList (Desk.dropEndSpaces
          (w.performAll (strokes.map Stroke.step)).desk.entry.toList) := by
  have typed : w.IsTyped [] := ⟨mode, empty⟩
  have before := (typed.performAll strokes).entry
  refine ⟨before, ?_⟩
  intro k solid
  have behind := (typed.performAll (strokes ++ [Stroke.key k, Stroke.delete])).entry
  rw [List.foldl_append, List.foldl_cons, List.foldl_cons, List.foldl_nil] at behind
  rw [behind, before, PadKey.dropEndSpaces_text, String.ofList_toList, Stroke.apply, Stroke.apply,
    PadKey.deleteLast_concat solid]

/-- `DEL` takes away `asin(` as a whole, although it ends in `sin(`. -/
theorem entry_of_strokes_asin :
    let w : Window .plain := start .standard
    let before : List Stroke := [.key (.digit 2), .key (.sign .times), .key (.function .sin),
      .delete, .key .space, .key .pi]
    let after := before ++ [Stroke.key (.function .asin), Stroke.delete]
    w.desk.entry = "" ∧ w.desk.mode = .expression ∧
      (w.performAll (before.map Stroke.step)).desk.entry = "2* pi" ∧
      (w.performAll (after.map Stroke.step)).desk.entry = "2* pi" := by
  intro w before after
  have text : PadKey.text (before.foldl Stroke.apply []) = "2* pi" := by decide +kernel
  obtain ⟨typed, undone⟩ := entry_of_strokes (w := w) rfl rfl before
  rw [text] at typed
  refine ⟨rfl, rfl, typed, ?_⟩
  rw [undone (.function .asin) nofun, typed]
  decide +kernel

end Window

end DeskCalculator
