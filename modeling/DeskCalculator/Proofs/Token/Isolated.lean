import DeskCalculator.Proofs.Token.Reading
import Mathlib.Data.List.Basic
import Mathlib.Data.List.Induction

/-!
# Tokens as isolated texts

Reading a text from left to right and classifying isolated pieces of text are two things. They agree
on every token that reading gives: the text of the token, standing alone, is classified as the same
token. So tokens that are written in a row, divided by spaces, are read back one by one.

## Main definitions

* `Token.IsIsolable`: the tokens that their own texts, standing alone, give back

## Main results

* `Lexer.isIsolable_of_mem_scan`: every token that is read is isolable
* `Text.words_unwords_eq_flatMap`, `Text.words_unwords`: texts in a row have their words in a row, and
  words are told apart again
* `Text.words_trim`, `Text.words_unwords_words`: no blanks but those that divide words matter
* `Token.map_ofText_words_listText`: isolable tokens in a row are read back
-/

namespace DeskCalculator

namespace Text

/-- The texts that are a word: neither empty nor divided by blanks. -/
structure IsWord (w : String) : Prop where
  ne_nil : w.toList ≠ []
  not_blank : ∀ c ∈ w.toList, isBlank c = false

theorem isWord_of_all {w : String} (ne : w.toList ≠ [])
    (solid : w.toList.all (fun c => !isBlank c) = true) : IsWord w :=
  ⟨ne, fun c hc => by simpa using List.all_eq_true.mp solid c hc⟩

theorem words_of_isWord {w : String} (h : IsWord w) : words w = [w] := by
  simp [words, List.splitOnP_eq_singleton h.not_blank, h.ne_nil]

/-- A blank divides the words on its two sides. -/
theorem words_append_blank {c : Char} (blank : isBlank c = true) (s t : List Char) :
    words (String.ofList (s ++ c :: t)) =
      words (String.ofList s) ++ words (String.ofList t) := by
  simp only [words, String.toList_ofList, List.splitOnP_append_cons s t blank, List.filter_append,
    List.map_append]

/-- Texts in a row, one space between neighbours, have their words in a row. -/
theorem words_unwords_eq_flatMap (ts : List String) : words (unwords ts) = ts.flatMap words := by
  induction ts with
  | nil => rfl
  | cons t ts ih =>
    by_cases last : ts = []
    · rw [last, unwords, String.intercalate_singleton, List.flatMap_singleton]
    · have divided : unwords (t :: ts) =
          String.ofList (t.toList ++ ' ' :: (unwords ts).toList) := by
        rw [unwords, String.intercalate_cons_of_ne_nil last, ← String.toList_inj]
        simp [unwords]
      rw [divided, words_append_blank rfl, String.ofList_toList, String.ofList_toList, ih,
        List.flatMap_cons]

/-- Words in a row, one space between neighbours, are told apart again. -/
theorem words_unwords {ws : List String} (h : ∀ w ∈ ws, IsWord w) : words (unwords ws) = ws := by
  rw [words_unwords_eq_flatMap, List.flatMap_congr fun w hw => words_of_isWord (h w hw),
    List.flatMap_singleton']

/-- Blanks around a text are around its words. -/
theorem words_trim (s : String) : words (trim s) = words s := by
  have front (t : List Char) :
      words (String.ofList (t.dropWhile isBlank)) = words (String.ofList t) := by
    induction t with
    | nil => rfl
    | cons c t ih =>
      by_cases blank : isBlank c = true
      · rw [List.dropWhile_cons_of_pos blank, ih]
        exact (words_append_blank blank [] t).symm
      · rw [List.dropWhile_cons_of_neg blank]
  have back (t : List Char) :
      words (String.ofList (dropEndWhile isBlank t)) = words (String.ofList t) := by
    induction t using List.reverseRecOn with
    | nil => rfl
    | append_singleton t c ih =>
      rw [dropEndWhile_concat]
      split
      · next blank =>
        rw [ih, words_append_blank blank]
        exact (List.append_nil _).symm
      · rfl
  rw [trim, back, front, String.ofList_toList]

theorem not_of_mem_splitOnP {α : Type} {p : α → Bool} {s w : List α} (h : w ∈ s.splitOnP p) :
    ∀ a ∈ w, p a = false := by
  induction s generalizing w with
  | nil =>
    obtain rfl : w = [] := by simpa [List.splitOnP_nil] using h
    exact fun _ none => absurd none List.not_mem_nil
  | cons b s ih =>
    rw [List.splitOnP_cons_eq_if_modifyHead] at h
    split at h
    · rcases List.mem_cons.mp h with rfl | later
      · exact fun _ none => absurd none List.not_mem_nil
      · exact ih later
    · next solid =>
      obtain ⟨v, vs, parts⟩ := List.exists_cons_of_ne_nil (List.splitOnP_ne_nil p s)
      rw [parts, List.modifyHead_cons] at h
      rw [parts] at ih
      rcases List.mem_cons.mp h with rfl | later
      · intro a ha
        rcases List.mem_cons.mp ha with rfl | ha
        · simpa using solid
        · exact ih List.mem_cons_self a ha
      · exact ih (List.mem_cons_of_mem _ later)

theorem isWord_of_mem_words {s w : String} (h : w ∈ words s) : IsWord w := by
  obtain ⟨v, mem, rfl⟩ := List.mem_map.mp h
  obtain ⟨part, ne⟩ := List.mem_filter.mp mem
  refine ⟨by simpa using ne, ?_⟩
  rw [String.toList_ofList]
  exact not_of_mem_splitOnP part

/-- Blanks between words are as good as one space. -/
theorem words_unwords_words (s : String) : words (unwords (words s)) = words s :=
  words_unwords fun _ => isWord_of_mem_words

end Text

namespace Token

/-- A token that its own text, standing alone, gives back. -/
structure IsIsolable (t : Token) : Prop where
  isWord : Text.IsWord t.text
  ofText_text : ofText t.text = t

theorem words_listText {ts : List Token} (h : ∀ t ∈ ts, IsIsolable t) :
    Text.words (listText ts) = ts.map text := by
  apply Text.words_unwords
  intro w hw
  obtain ⟨t, ht, rfl⟩ := List.mem_map.mp hw
  exact (h t ht).isWord

/-- Isolable tokens that are written in a row are read back. -/
theorem map_ofText_words_listText {ts : List Token} (h : ∀ t ∈ ts, IsIsolable t) :
    (Text.words (listText ts)).map ofText = ts := by
  rw [words_listText h, List.map_map]
  exact (List.map_congr_left fun t ht => (h t ht).ofText_text).trans (List.map_id ts)

theorem isWord_ofList {w : List Char} (ne : w ≠ [])
    (not_blank : ∀ c ∈ w, Text.isBlank c = false) : Text.IsWord (String.ofList w) :=
  ⟨by simpa using ne, by simpa using not_blank⟩

theorem isIsolable_number {w : List Char} (ne : w ≠ []) (numeric : ∀ c ∈ w, isNumeric c = true) :
    IsIsolable (number (String.ofList w)) := by
  refine ⟨isWord_ofList ne fun c hc => isBlank_of_isNumeric (numeric c hc), ?_⟩
  obtain ⟨c, w, rfl⟩ := List.exists_cons_of_ne_nil ne
  have first := numeric c List.mem_cons_self
  simp only [text, ofText, String.toList_ofList]
  rcases w with _ | ⟨d, w⟩ <;> simp [first]

theorem isIsolable_ofWord {w : List Char} (ne : w ≠ [])
    (letters : ∀ c ∈ w, Lexer.isNameLetter c = true) :
    IsIsolable (ofWord (String.ofList w)) := by
  refine ⟨?_, ?_⟩
  · rw [text_ofWord]
    exact isWord_ofList ne fun c hc => Lexer.isBlank_of_isNameLetter (letters c hc)
  · rw [text_ofWord]
    obtain ⟨c, w, rfl⟩ := List.exists_cons_of_ne_nil ne
    have letter := letters c List.mem_cons_self
    have minus : c ≠ '-' := by rintro rfl; exact absurd letter (by decide)
    have tilde : c ≠ '~' := by rintro rfl; exact absurd letter (by decide)
    simp only [ofText, String.toList_ofList]
    rcases w with _ | ⟨d, w⟩ <;>
      simp [Lexer.isNumeric_of_isNameLetter letter, Lexer.ofSign?_of_isNameLetter letter, minus,
        tilde]

theorem isIsolable_of_ofSign? {c : Char} {t : Token} (h : ofSign? c = some t) : IsIsolable t := by
  unfold ofSign? at h
  split at h <;> simp only [Option.some.injEq, reduceCtorEq] at h <;> subst h <;>
    exact ⟨Text.isWord_of_all (by decide) (by decide), by decide⟩

theorem isIsolable_negation : IsIsolable (operator .negation) :=
  ⟨Text.isWord_of_all (by decide) (by decide), by decide⟩

/-! ## Words that name nothing -/

theorem IsNameless.ne_text {word : String} (h : IsNameless word) (o : Operator) :
    word ≠ o.text := by
  rintro rfl
  exact absurd h.2 (by simp)

theorem exists_eq_unknown {t : Token} (word : t.kind = .word) (constant : t.text ≠ pi.text)
    (functions : ∀ f : NamedFunction, t.text ≠ f.name) :
    ∃ nameless, t = unknown t.text nameless := by
  cases t with
  | unknown w nameless => exact ⟨nameless, rfl⟩
  | pi => exact absurd rfl constant
  | operator o =>
    cases o with
    | function f => exact absurd rfl (functions f)
    | _ => cases word
  | _ => cases word

end Token

namespace Lexer

theorem spanNumber_ne_nil {c : Char} {r : List Char} (h : Token.isNumeric c = true) :
    (spanNumber false (c :: r)).1 ≠ [] := by
  intro none
  have shorter := length_spanNumber_lt r h
  have lost := congrArg List.length (spanNumber_append false (c :: r))
  rw [none, List.nil_append] at lost
  omega

theorem isNumeric_of_mem_spanNumber {seen : Bool} {s : List Char} :
    ∀ c ∈ (spanNumber seen s).1, Token.isNumeric c = true := by
  induction s generalizing seen with
  | nil => simp [spanNumber]
  | cons d s ih =>
    intro c hc
    simp only [spanNumber] at hc
    split at hc
    · next digit =>
      rcases List.mem_cons.mp hc with rfl | hc
      · simp [Token.isNumeric, digit]
      · exact ih c hc
    · split at hc
      · next point =>
        rcases List.mem_cons.mp hc with rfl | hc
        · simp [Token.isNumeric, point.1]
        · exact ih c hc
      · simp at hc

theorem isIsolable_of_firstToken? {bound : Bool} {s rest : List Char} {t : Token}
    (h : firstToken? bound s = some (t, rest)) : t.IsIsolable := by
  -- the first character decides what is read, as it decides what its text alone is taken for
  rcases s with _ | ⟨c, r⟩
  · simp [firstToken?] at h
  · by_cases numeric : Token.isNumeric c = true
    · rw [firstToken?_of_isNumeric numeric, Option.some.injEq, Prod.mk.injEq] at h
      rw [← h.1]
      exact Token.isIsolable_number (spanNumber_ne_nil numeric) isNumeric_of_mem_spanNumber
    · by_cases letter : isNameLetter c = true
      · rw [firstToken?_of_isNameLetter letter, Option.some.injEq, Prod.mk.injEq] at h
        rw [← h.1]
        apply Token.isIsolable_ofWord (by simp)
        intro d hd
        rcases List.mem_cons.mp hd with rfl | hd
        · exact letter
        · exact (List.all_eq_true.mp List.all_takeWhile) d hd
      · cases sign : Token.ofSign? c with
        | none =>
          rw [firstToken?_eq_none (by simpa using numeric) sign (by simpa using letter)] at h
          exact absurd h (by simp)
        | some u =>
          by_cases minus : c = '-' ∧ bound = false
          · obtain ⟨rfl, rfl⟩ := minus
            rw [firstToken?_minus, Option.some.injEq, Prod.mk.injEq] at h
            rw [← h.1]
            exact Token.isIsolable_negation
          · rw [firstToken?_of_ofSign? sign fun hc => by simpa [hc] using minus,
              Option.some.injEq, Prod.mk.injEq] at h
            rw [← h.1]
            exact Token.isIsolable_of_ofSign? sign

/-- **Every token that is read is isolable.** -/
theorem isIsolable_of_mem_scan {l : Lexer} : ∀ t ∈ l.scan.tokens, t.IsIsolable := by
  induction l using scan_induction with
  | ended l l' h => simp [scan_of_end h]
  | failed l l' e h => simp [scan_of_failure h]
  | token l l' u h ih =>
    rw [scan_of_token h]
    intro t ht
    rcases List.mem_cons.mp ht with rfl | ht
    · obtain ⟨rest, first, -⟩ := firstToken?_of_next h
      exact isIsolable_of_firstToken? first
    · exact ih t ht

end Lexer

end DeskCalculator
