import DeskCalculator.Proofs.Token.Reading

/-!
# Spelled texts

A row of tokens can be written in many ways, with blanks before, between and behind the tokens. As
long as neighbours that would merge are divided, reading the text gives the tokens back.

## Main definitions

* `Token.source`: how a token is written in an expression
* `Token.IsLegible`, `Token.AreLegible`: the tokens, and the rows of tokens, that reading can give
* `Spells`: the texts that spell a row of tokens

## Main results

* `Spells.scan_eq`: reading a spelled text gives the tokens back
-/

namespace DeskCalculator

namespace Token

/-- How a token is written in an expression, where both minus signs look the same. -/
def source : Token → String
  | operator .negation => "-"
  | t => t.text

/-- Neighbours that merge unless a blank divides them: two numbers, or two words. -/
def Merges (t u : Token) : Prop :=
  t.kind = u.kind ∧ (t.kind = .number ∨ t.kind = .word)

/-- The tokens that reading can give at a place; `bound` says whether an operand is complete before
it. -/
def IsLegible (bound : Bool) : Token → Prop
  | number literal =>
    literal.toList ≠ [] ∧ (∀ c ∈ literal.toList, isNumeric c = true) ∧
      literal.toList.count '.' ≤ 1
  | operator .negation => bound = false
  | operator (.binary .minus) => bound = true
  | unknown word _ => word.toList ≠ [] ∧ ∀ c ∈ word.toList, Lexer.isNameLetter c = true
  | _ => True

/-- The rows of tokens that reading can give from a place on. -/
def AreLegible (bound : Bool) : List Token → Prop
  | [] => True
  | t :: ts => t.IsLegible bound ∧ AreLegible t.completesOperand ts

/-! ## The text of one token -/

theorem exists_eq_number {t : Token} (h : t.kind = .number) : ∃ literal, t = .number literal := by
  cases t with
  | number literal => exact ⟨literal, rfl⟩
  | operator o => cases o <;> cases h
  | _ => cases h

theorem ofWord_source {t : Token} {bound : Bool} (legible : t.IsLegible bound)
    (word : t.kind = .word) : ofWord t.source = t := by
  cases t with
  | pi => rfl
  | operator o =>
    cases o with
    | function f => cases f <;> rfl
    | _ => cases word
  | unknown w nameless => exact ofWord_eq_unknown nameless
  | _ => cases word

theorem source_word {t : Token} {bound : Bool} (legible : t.IsLegible bound)
    (word : t.kind = .word) :
    t.source.toList ≠ [] ∧ ∀ c ∈ t.source.toList, Lexer.isNameLetter c = true := by
  cases t with
  | pi => exact ⟨by decide, List.all_eq_true.mp (by decide)⟩
  | operator o =>
    cases o with
    | function f => cases f <;> exact ⟨by decide, List.all_eq_true.mp (by decide)⟩
    | _ => cases word
  | unknown w => exact legible
  | _ => cases word

/-- A token that is neither a number nor a word is written as one sign, read as the token itself;
only the sign of a negation is read as another token. -/
theorem exists_source_eq_sign {t : Token} (number : t.kind ≠ .number) (word : t.kind ≠ .word) :
    ∃ c u, t.source.toList = [c] ∧ ofSign? c = some u ∧
      (t = u ∧ (c = '-' → t = .operator (.binary .minus)) ∨ c = '-' ∧ t = .operator .negation) := by
  cases t with
  | number literal => exact absurd rfl number
  | pi | unknown w => exact absurd rfl word
  | opening | closing | comma => exact ⟨_, _, rfl, rfl, .inl ⟨rfl, by decide⟩⟩
  | operator o =>
    cases o with
    | function f => exact absurd rfl word
    | negation => exact ⟨'-', _, rfl, rfl, .inr ⟨rfl, rfl⟩⟩
    | factorial => exact ⟨_, _, rfl, rfl, .inl ⟨rfl, by decide⟩⟩
    | binary sign => cases sign <;> exact ⟨_, _, rfl, rfl, .inl ⟨rfl, by decide⟩⟩

theorem exists_head_source {t : Token} {bound : Bool} (legible : t.IsLegible bound) :
    ∃ c r, t.source.toList = c :: r ∧ (isNumeric c = true → t.kind = .number) ∧
      (Lexer.isNameLetter c = true → t.kind = .word) := by
  by_cases number : t.kind = .number
  · obtain ⟨literal, rfl⟩ := exists_eq_number number
    obtain ⟨c, r, eq⟩ := List.exists_cons_of_ne_nil legible.1
    have numeric := legible.2.1 c (by simp [eq])
    refine ⟨c, r, eq, fun _ => rfl, ?_⟩
    intro letter
    exact absurd letter (by simp [Lexer.isNameLetter_of_isNumeric numeric])
  · by_cases word : t.kind = .word
    · obtain ⟨ne, letters⟩ := source_word legible word
      obtain ⟨c, r, eq⟩ := List.exists_cons_of_ne_nil ne
      have letter := letters c (by simp [eq])
      refine ⟨c, r, eq, ?_, fun _ => word⟩
      intro numeric
      exact absurd numeric (by simp [Lexer.isNumeric_of_isNameLetter letter])
    · obtain ⟨c, u, eq, sign, -⟩ := exists_source_eq_sign number word
      exact ⟨c, [], eq, fun numeric => absurd numeric (by simp [isNumeric_of_ofSign? sign]),
        fun letter => absurd letter (by simp [Lexer.isNameLetter_of_ofSign? sign])⟩

end Token

namespace Lexer

/-- A token is read from its text, if nothing that follows would merge with it. -/
theorem scan_source {t : Token} {r : List Char} {bound afterNumber : Bool}
    (legible : t.IsLegible bound)
    (number : t.kind = .number → afterNumber = false ∧ ∀ y ∈ r.head?, Token.isNumeric y = false)
    (word : t.kind = .word → ∀ y ∈ r.head?, isNameLetter y = false) :
    scan ⟨t.source.toList ++ r, bound, afterNumber⟩ =
      let s := scan ⟨r, t.completesOperand, t.isNumber⟩
      ⟨t :: s.tokens, s.failure⟩ := by
  -- numbers and words are as long as they can be, a sign is a single character
  by_cases isNumber : t.kind = .number
  · obtain ⟨rfl, stop⟩ := number isNumber
    obtain ⟨literal, rfl⟩ := Token.exists_eq_number isNumber
    have read : scan ⟨literal.toList ++ r, bound, false⟩ = _ :=
      scan_number legible.1 legible.2.1 legible.2.2
        fun y hy numeric => absurd numeric (by simp [stop y hy])
    rwa [String.ofList_toList] at read
  · by_cases isWord : t.kind = .word
    · obtain ⟨ne, letters⟩ := Token.source_word legible isWord
      have read : scan ⟨t.source.toList ++ r, bound, afterNumber⟩ = _ :=
        scan_word ne letters (word isWord)
      have named := Token.isNumber_ofWord t.source
      rw [Token.ofWord_source legible isWord] at named
      rwa [String.ofList_toList, Token.ofWord_source legible isWord, ← named] at read
    · obtain ⟨c, u, eq, sign, ⟨rfl, minus⟩ | ⟨rfl, rfl⟩⟩ :=
        Token.exists_source_eq_sign isNumber isWord
      · rw [eq, List.singleton_append, scan_sign sign fun hc => ?_, Token.isNumber_of_ofSign? sign]
        rw [minus hc] at legible
        exact legible
      · obtain rfl : bound = false := legible
        rw [eq, List.singleton_append, scan_negation]
        rfl

end Lexer

/-- The texts that spell a row of tokens: any blanks before each token and at the end, at least one
between neighbours that merge. -/
inductive Spells : List Token → List Char → Prop
  | nil {gap : List Char} (blank : ∀ c ∈ gap, Text.isBlank c = true) : Spells [] gap
  | cons {t : Token} {ts : List Token} {gap s : List Char}
    (blank : ∀ c ∈ gap, Text.isBlank c = true)
    (divided : ∀ u ∈ ts.head?, t.Merges u → ∃ c ∈ s.head?, Text.isBlank c = true)
    (rest : Spells ts s) : Spells (t :: ts) (gap ++ (t.source.toList ++ s))

namespace Spells

variable {ts : List Token} {s : List Char} {bound : Bool}

theorem head_eq (h : Spells ts s) (legible : Token.AreLegible bound ts) :
    ∀ c ∈ s.head?, Text.isBlank c = true ∨
      ∃ u ∈ ts.head?, (Token.isNumeric c = true → u.kind = .number) ∧
        (Lexer.isNameLetter c = true → u.kind = .word) := by
  intro c hc
  cases h with
  | nil blank => exact .inl (blank c (List.mem_of_mem_head? hc))
  | @cons t ts gap s blank divided rest =>
    rcases gap with _ | ⟨b, gap⟩
    · obtain ⟨d, r, eq, kind⟩ := Token.exists_head_source legible.1
      rw [List.nil_append, eq, List.cons_append, List.head?_cons] at hc
      obtain rfl : d = c := Option.some.inj hc
      exact .inr ⟨t, rfl, kind⟩
    · rw [List.cons_append, List.head?_cons] at hc
      exact .inl (blank c (Option.some.inj hc ▸ List.mem_cons_self))

/-- What follows a token in a spelled text does not merge with it. -/
theorem stops {t : Token} (h : Spells ts s) (legible : Token.AreLegible bound ts)
    (divided : ∀ u ∈ ts.head?, t.Merges u → ∃ c ∈ s.head?, Text.isBlank c = true) :
    (t.kind = .number → ∀ y ∈ s.head?, Token.isNumeric y = false) ∧
      (t.kind = .word → ∀ y ∈ s.head?, Lexer.isNameLetter y = false) := by
  -- a character that would merge starts a token of the same kind, and so stands behind a blank
  constructor
  · intro number y hy
    rw [Bool.eq_false_iff]
    intro numeric
    have solid := Token.isBlank_of_isNumeric numeric
    rcases h.head_eq legible y hy with blank | ⟨u, hu, kind, -⟩
    · exact absurd blank (by simp [solid])
    · obtain ⟨c, hc, blank⟩ := divided u hu ⟨number.trans (kind numeric).symm, .inl number⟩
      obtain rfl : c = y := Option.some.inj (hc.symm.trans hy)
      exact absurd blank (by simp [solid])
  · intro word y hy
    rw [Bool.eq_false_iff]
    intro letter
    have solid := Lexer.isBlank_of_isNameLetter letter
    rcases h.head_eq legible y hy with blank | ⟨u, hu, -, kind⟩
    · exact absurd blank (by simp [solid])
    · obtain ⟨c, hc, blank⟩ := divided u hu ⟨word.trans (kind letter).symm, .inr word⟩
      obtain rfl : c = y := Option.some.inj (hc.symm.trans hy)
      exact absurd blank (by simp [solid])

/-- **Reading a spelled text gives the tokens back.** -/
theorem scan_eq (h : Spells ts s) (legible : Token.AreLegible bound ts) {afterNumber : Bool}
    (divided : afterNumber = true → ∀ u ∈ ts.head?, u.kind = .number →
      ∃ c ∈ s.head?, Text.isBlank c = true) :
    Lexer.scan ⟨s, bound, afterNumber⟩ = ⟨ts, none⟩ := by
  induction h generalizing bound afterNumber with
  | @nil gap blank =>
    rcases gap with _ | ⟨b, gap⟩
    · exact Lexer.scan_nil
    · rw [← List.append_nil (b :: gap), Lexer.scan_blanks blank (by simp), Lexer.scan_nil]
  | @cons t ts gap s blank divided' rest ih =>
    obtain ⟨first, others⟩ := legible
    obtain ⟨number, word⟩ := rest.stops others divided'
    have read : ∀ afterNumber, (afterNumber = true → t.kind ≠ .number) →
        Lexer.scan ⟨t.source.toList ++ s, bound, afterNumber⟩ = ⟨t :: ts, none⟩ := by
      intro afterNumber apart
      have behind : Lexer.scan ⟨s, t.completesOperand, t.isNumber⟩ = ⟨ts, none⟩ := by
        apply ih others
        intro isNumber u hu hn
        cases t with
        | number literal => exact divided' u hu ⟨hn.symm, .inl rfl⟩
        | _ => cases isNumber
      rw [Lexer.scan_source first (fun isNumber => ⟨?_, number isNumber⟩) word, behind]
      exact Bool.eq_false_iff.mpr fun after => apart after isNumber
    rcases gap with _ | ⟨b, gap⟩
    · apply read afterNumber
      intro after isNumber
      obtain ⟨c, hc, blank⟩ := divided after t rfl isNumber
      obtain ⟨literal, rfl⟩ := Token.exists_eq_number isNumber
      obtain ⟨d, r, eq⟩ := List.exists_cons_of_ne_nil first.1
      have numeric := first.2.1 d (by simp [eq])
      rw [List.nil_append, show (Token.number literal).source.toList = d :: r from eq] at hc
      obtain rfl : d = c := Option.some.inj hc
      exact absurd blank (by simp [Token.isBlank_of_isNumeric numeric])
    · rw [Lexer.scan_blanks blank (by simp)]
      exact read false (by simp)

end Spells

end DeskCalculator
