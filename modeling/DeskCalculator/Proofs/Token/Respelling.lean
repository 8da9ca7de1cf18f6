import DeskCalculator.Proofs.Token.Division
import DeskCalculator.Proofs.Token.Isolated
import DeskCalculator.Proofs.Token.Spelling

/-!
# What is read is spelled

A text that can be read spells the tokens that reading gives: they stand in it in their order, with
blanks around them, and neighbours that would merge are divided. So the texts that read as a row of
tokens are exactly those that spell it, and the blanks around a text do not count.

## Main definitions

* `Lexer.Starts`: what the first token of a text is

## Main results

* `Lexer.spelling_of_next`: where a token is read, and up to where
* `Lexer.exists_blank_between`: tokens that would merge are divided by a blank
* `Lexer.areLegible_tokens`: every token that is read is legible
* `Lexer.scan_eq_iff_spells`: reading accepts exactly the texts that spell what it gives
* `Spells.trim`: a text still spells its tokens without the blanks around it
-/

namespace DeskCalculator

namespace Token

/-- Spelled with letters, a word is the constant, the name of a function, or nameless. -/
theorem ofWord_cases {w : String} (letters : ∀ c ∈ w.toList, Lexer.isNameLetter c = true) :
    w = "pi" ∧ ofWord w = pi ∨ (∃ f, w = f.name ∧ ofWord w = operator (.function f)) ∨
      ∃ nameless, ofWord w = unknown w nameless := by
  unfold ofWord
  split
  · next constant => exact .inl ⟨constant, rfl⟩
  · next other =>
    split
    · next o named =>
      obtain rfl := Operator.text_of_ofText? named
      rcases o with sign | _ | _ | f
      · cases sign <;> exact absurd (letters _ List.mem_cons_self) (by decide)
      · exact absurd (letters _ List.mem_cons_self) (by decide)
      · exact absurd (letters _ List.mem_cons_self) (by decide)
      · exact .inr (.inl ⟨f, rfl, rfl⟩)
    · next none => exact .inr (.inr ⟨⟨other, none⟩, rfl⟩)

theorem source_ofWord {w : String} (letters : ∀ c ∈ w.toList, Lexer.isNameLetter c = true) :
    (ofWord w).source = w := by
  rcases ofWord_cases letters with ⟨rfl, read⟩ | ⟨f, rfl, read⟩ | ⟨_, read⟩ <;> rw [read] <;> rfl

theorem isLegible_ofWord {w : String} (ne : w.toList ≠ [])
    (letters : ∀ c ∈ w.toList, Lexer.isNameLetter c = true) (bound : Bool) :
    (ofWord w).IsLegible bound := by
  rcases ofWord_cases letters with ⟨rfl, read⟩ | ⟨f, rfl, read⟩ | ⟨_, read⟩ <;> rw [read]
  · trivial
  · trivial
  · exact ⟨ne, letters⟩

/-- A sign is written as it is read; a minus sign that is read as one subtracts. -/
theorem isLegible_of_ofSign? {c : Char} {t : Token} (h : ofSign? c = some t) {bound : Bool}
    (minus : c = '-' → bound = true) :
    t.IsLegible bound ∧ t.source.toList = [c] ∧ t.kind ≠ .word := by
  unfold ofSign? at h
  split at h <;> simp only [Option.some.injEq, reduceCtorEq] at h <;> subst h
  case h_5 => exact ⟨minus rfl, rfl, by decide⟩
  all_goals exact ⟨trivial, rfl, by decide⟩

end Token

namespace Lexer

/-- A number holds at most one point, and none behind a point that was seen. -/
theorem count_point_spanNumber (seen : Bool) (s : List Char) :
    (spanNumber seen s).1.count '.' + seen.toNat ≤ 1 := by
  induction s generalizing seen with
  | nil => cases seen <;> simp [spanNumber]
  | cons c s ih =>
    simp only [spanNumber]
    split
    · next digit =>
      have point : c ≠ '.' := by rintro rfl; exact absurd digit (by decide)
      rw [List.count_cons_of_ne point]
      exact ih seen
    · split
      · next point =>
        obtain ⟨rfl, rfl⟩ := point
        simpa using ih true
      · cases seen <;> simp

/-- What the first token of a text is: it is legible, it is written at the start of the text, and a
word is read up to where its letters end. -/
structure Starts (bound : Bool) (t : Token) (s rest : List Char) : Prop where
  legible : t.IsLegible bound
  written : s = t.source.toList ++ rest
  ends : t.kind = .word → ∀ y ∈ rest.head?, isNameLetter y = false

theorem starts_number {c : Char} (numeric : Token.isNumeric c = true) (bound : Bool)
    (r : List Char) :
    Starts bound (.number (String.ofList (spanNumber false (c :: r)).1)) (c :: r)
      (spanNumber false (c :: r)).2 where
  legible := by
    refine ⟨?_, ?_, ?_⟩
    · simpa using spanNumber_ne_nil numeric
    · simpa using isNumeric_of_mem_spanNumber
    · simpa using count_point_spanNumber false (c :: r)
  written := by simpa [Token.source, Token.text] using (spanNumber_append false (c :: r)).symm
  ends := nofun

theorem starts_word {c : Char} (letter : isNameLetter c = true) (bound : Bool) (r : List Char) :
    Starts bound (Token.ofWord (String.ofList (c :: r.takeWhile isNameLetter))) (c :: r)
      (r.dropWhile isNameLetter) := by
  have letters : ∀ d ∈ (String.ofList (c :: r.takeWhile isNameLetter)).toList,
      isNameLetter d = true := by
    rw [String.toList_ofList]
    intro d hd
    rcases List.mem_cons.mp hd with rfl | hd
    · exact letter
    · exact List.all_eq_true.mp List.all_takeWhile d hd
  refine ⟨Token.isLegible_ofWord (by simp) letters bound, ?_, ?_⟩
  · rw [Token.source_ofWord letters]
    simp [List.takeWhile_append_dropWhile]
  · intro _ y hy
    have stopped := List.head?_dropWhile_not isNameLetter r
    rw [hy] at stopped
    simpa using stopped

theorem starts_sign {c : Char} {t : Token} (sign : Token.ofSign? c = some t) {bound : Bool}
    (subtracts : c = '-' → bound = true) (r : List Char) : Starts bound t (c :: r) r := by
  obtain ⟨legible, source, other⟩ := Token.isLegible_of_ofSign? sign subtracts
  exact ⟨legible, by rw [source]; rfl, fun word => absurd word other⟩

/-- A token is read where it is written. -/
theorem starts_of_firstToken? {bound : Bool} {s rest : List Char} {t : Token}
    (h : firstToken? bound s = some (t, rest)) : Starts bound t s rest := by
  rcases s with _ | ⟨c, r⟩
  · cases h
  by_cases numeric : Token.isNumeric c = true
  · rw [firstToken?_of_isNumeric numeric, Option.some.injEq, Prod.mk.injEq] at h
    obtain ⟨rfl, rfl⟩ := h
    exact starts_number numeric bound r
  by_cases letter : isNameLetter c = true
  · rw [firstToken?_of_isNameLetter letter, Option.some.injEq, Prod.mk.injEq] at h
    obtain ⟨rfl, rfl⟩ := h
    exact starts_word letter bound r
  cases sign : Token.ofSign? c with
  | none =>
    rw [firstToken?_eq_none (by simpa using numeric) sign (by simpa using letter)] at h
    cases h
  | some u =>
    by_cases minus : c = '-' ∧ bound = false
    · obtain ⟨rfl, rfl⟩ := minus
      rw [firstToken?_minus, Option.some.injEq, Prod.mk.injEq] at h
      obtain ⟨rfl, rfl⟩ := h
      exact ⟨rfl, rfl, nofun⟩
    · have subtracts : c = '-' → bound = true := fun hc => by simpa [hc] using minus
      rw [firstToken?_of_ofSign? sign subtracts, Option.some.injEq, Prod.mk.injEq] at h
      obtain ⟨rfl, rfl⟩ := h
      exact starts_sign sign subtracts r

/-- The next token is read behind blanks only, where it is written, and the reading goes on behind
it. -/
theorem spelling_of_next {l l' : Lexer} {t : Token} (h : l.next = (some (.ok t), l')) :
    l' = after t l'.rest ∧ ∃ gap text, (∀ c ∈ gap, Text.isBlank c = true) ∧
      l.rest = gap ++ text ∧ Starts l.bound t text l'.rest := by
  obtain ⟨rest, first, -, rfl⟩ := firstToken?_of_next h
  refine ⟨rfl, l.rest.takeWhile Text.isBlank, _, ?_, ?_, starts_of_firstToken? first⟩
  · exact fun c hc => List.all_eq_true.mp List.all_takeWhile c hc
  · exact List.takeWhile_append_dropWhile.symm

/-- Tokens that would merge are read only if a blank divides them. -/
theorem exists_blank_between {l l' l'' : Lexer} {t u : Token}
    (first : l.next = (some (.ok t), l')) (second : l'.next = (some (.ok u), l''))
    (merges : t.Merges u) : ∃ c ∈ l'.rest.head?, Text.isBlank c = true := by
  obtain ⟨place, _, _, -, -, start⟩ := spelling_of_next first
  obtain ⟨rest'', read, apart, -⟩ := firstToken?_of_next second
  rcases rest : l'.rest with _ | ⟨c, r⟩
  · rw [rest] at read
    cases read
  refine ⟨c, rfl, ?_⟩
  by_contra solid
  have start' := starts_of_firstToken? read
  rw [rest, List.dropWhile_cons_of_neg solid] at start'
  obtain ⟨same, number | word⟩ := merges
  · obtain ⟨_, rfl⟩ := Token.exists_eq_number number
    obtain ⟨_, rfl⟩ := Token.exists_eq_number (same.symm.trans number)
    rw [place, rest] at apart
    simp [after, Token.isNumber, solid] at apart
  · obtain ⟨ne, letters⟩ := Token.source_word start'.legible (same.symm.trans word)
    obtain ⟨d, w, source⟩ := List.exists_cons_of_ne_nil ne
    have written := start'.written
    rw [source, List.cons_append, List.cons.injEq] at written
    obtain ⟨rfl, -⟩ := written
    have letter := letters c (by simp [source])
    exact absurd letter (by simp [start.ends word c (by simp [rest])])

theorem exists_next_of_head? {l : Lexer} {t : Token} (h : t ∈ l.scan.tokens.head?) :
    ∃ l', l.next = (some (.ok t), l') := by
  cases read : l.next with
  | mk item l' =>
    rcases item with _ | ⟨e | u⟩
    · simp [scan_of_end read] at h
    · simp [scan_of_failure read] at h
    · rw [scan_of_token read, List.head?_cons, Option.mem_some_iff] at h
      exact ⟨l', by rw [h]⟩

/-- Every token that is read is legible. -/
theorem areLegible_tokens (l : Lexer) : Token.AreLegible l.bound l.scan.tokens := by
  induction l using scan_induction with
  | ended l l' h => simp [scan_of_end h, Token.AreLegible]
  | failed l l' e h => simp [scan_of_failure h, Token.AreLegible]
  | token l l' t h ih =>
    obtain ⟨place, _, _, -, -, start⟩ := spelling_of_next h
    rw [scan_of_token h]
    rw [place] at ih ⊢
    exact ⟨start.legible, ih⟩

/-- **A text that can be read spells what is read.** -/
theorem spells_tokens {l : Lexer} (read : l.scan.failure = none) :
    Spells l.scan.tokens l.rest := by
  induction l using scan_induction with
  | ended l l' h =>
    rw [scan_of_end h]
    exact .nil (blank_of_next h)
  | failed l l' e h => simp [scan_of_failure h] at read
  | token l l' t h ih =>
    rw [scan_of_token h] at read ⊢
    obtain ⟨-, gap, text, blank, skipped, start⟩ := spelling_of_next h
    rw [skipped, start.written]
    refine .cons blank ?_ (ih read)
    intro u hu merges
    obtain ⟨l'', second⟩ := exists_next_of_head? hu
    exact exists_blank_between h second merges

/-- Reading accepts exactly the texts that spell what it gives. -/
theorem scan_eq_iff_spells {s : String} {ts : List Token} :
    (ofString s).scan = ⟨ts, none⟩ ↔ Token.AreLegible false ts ∧ Spells ts s.toList := by
  constructor
  · intro h
    have legible := areLegible_tokens (ofString s)
    have spells : Spells (ofString s).scan.tokens (ofString s).rest := spells_tokens (by rw [h])
    rw [h] at legible spells
    exact ⟨legible, spells⟩
  · rintro ⟨legible, spells⟩
    exact spells.scan_eq legible (by simp)

end Lexer

/-! ## Blanks around a text -/

theorem Token.isBlank_of_mem_source {t : Token} {bound : Bool} (legible : t.IsLegible bound) :
    t.source.toList ≠ [] ∧ ∀ c ∈ t.source.toList, Text.isBlank c = false := by
  by_cases number : t.kind = .number
  · obtain ⟨literal, rfl⟩ := exists_eq_number number
    exact ⟨legible.1, fun c hc => isBlank_of_isNumeric (legible.2.1 c hc)⟩
  · by_cases word : t.kind = .word
    · obtain ⟨ne, letters⟩ := source_word legible word
      exact ⟨ne, fun c hc => Lexer.isBlank_of_isNameLetter (letters c hc)⟩
    · obtain ⟨c, u, eq, sign, -⟩ := exists_source_eq_sign number word
      rw [eq]
      refine ⟨by simp, fun d hd => ?_⟩
      obtain rfl := List.mem_singleton.mp hd
      exact isBlank_of_ofSign? sign

namespace Spells

variable {ts : List Token} {s : List Char} {bound : Bool}

theorem dropBlanks (h : Spells ts s) (legible : Token.AreLegible bound ts) :
    Spells ts (s.dropWhile Text.isBlank) := by
  cases h with
  | nil blank =>
    rw [List.dropWhile_eq_nil_iff.mpr blank]
    exact .nil (by simp)
  | @cons t ts gap s blank divided rest =>
    obtain ⟨ne, solid⟩ := Token.isBlank_of_mem_source legible.1
    obtain ⟨c, w, source⟩ := List.exists_cons_of_ne_nil ne
    have stop : (t.source.toList ++ s).dropWhile Text.isBlank = t.source.toList ++ s := by
      rw [source, List.cons_append, List.dropWhile_cons_of_neg]
      simp [solid c (by simp [source])]
    rw [List.dropWhile_append_of_pos blank, stop, ← List.nil_append (_ ++ s)]
    exact .cons (by simp) divided rest

/-- A token holds the blanks before it. -/
theorem dropEndWhile_source {t : Token} (legible : t.IsLegible bound) (gap s : List Char) :
    Text.dropEndWhile Text.isBlank (gap ++ (t.source.toList ++ s)) =
      gap ++ (t.source.toList ++ Text.dropEndWhile Text.isBlank s) := by
  obtain ⟨ne, solid⟩ := Token.isBlank_of_mem_source legible
  rcases List.eq_nil_or_concat t.source.toList with none | ⟨w, c, source⟩
  · exact absurd none ne
  · have stays := solid c (by simp [source])
    have kept := Text.dropEndWhile_append_cons stays (gap ++ w) s
    simpa [source] using kept

theorem dropEndBlanks (h : Spells ts s) (legible : Token.AreLegible bound ts) :
    Spells ts (Text.dropEndWhile Text.isBlank s) := by
  induction h generalizing bound with
  | @nil gap blank =>
    have none : Text.dropEndWhile Text.isBlank gap = [] := by
      simpa [Text.dropEndWhile, List.dropWhile_eq_nil_iff] using blank
    rw [none]
    exact .nil (by simp)
  | @cons t ts gap s blank divided rest ih =>
    obtain ⟨first, others⟩ := legible
    rw [dropEndWhile_source first]
    refine .cons blank ?_ (ih others)
    intro u hu merges
    obtain ⟨c, hc, between⟩ := divided u hu merges
    refine ⟨c, ?_, between⟩
    cases rest with
    | nil => cases hu
    | @cons u ts gap s =>
      obtain ⟨ne, -⟩ := Token.isBlank_of_mem_source others.1
      rw [dropEndWhile_source others.1]
      simpa [List.head?_append, List.head?_eq_some_head ne] using hc

/-- The blanks around a text do not count. -/
theorem trim {s : String} (h : Spells ts s.toList) (legible : Token.AreLegible bound ts) :
    Spells ts (Text.trim s).toList := by
  rw [Text.trim, String.toList_ofList]
  exact (h.dropBlanks legible).dropEndBlanks legible

end Spells

end DeskCalculator
