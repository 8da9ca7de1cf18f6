import DeskCalculator.Token.Basic
import DeskCalculator.Failure

/-!
# Reading tokens

An expression is read from left to right. Blanks divide tokens and are otherwise skipped; a number
is the longest run of digits with at most one point, a word the longest run of letters.

## Main definitions

* `Lexer`: a place in a text, with what the last token means for the next one
* `Lexer.next`: the next token or failure, and the place behind it
* `Lexer.scan`: all tokens up to the end of the text or to the first failure
* `Expression.tokens`: the tokens of an expression that has no failure

## Main results

* `Lexer.next_cases`: what one reading gives
* `Lexer.length_lt_of_next`: each token shortens the text that is left
* `Lexer.scan_of_end`, `Lexer.scan_of_failure`, `Lexer.scan_of_token`: how the reading goes on
* `Lexer.scan_induction`: induction along a reading
-/

namespace DeskCalculator

namespace Lexer

/-- The letters of the names of functions and of the constant. -/
def nameLetters : List Char :=
  ['a', 'c', 'e', 'g', 'h', 'i', 'l', 'n', 'o', 'p', 'q', 'r', 's', 't', 'x']

/-- Whether a character is one of these letters. -/
def isNameLetter (c : Char) : Bool :=
  nameLetters.contains c

/-- The longest run of digits with at most one point that starts a text, and what follows it. With
`pointSeen` the point is used up. -/
def spanNumber (pointSeen : Bool) : List Char → List Char × List Char
  | [] => ([], [])
  | c :: r =>
    if c.isDigit then
      let (n, rest) := spanNumber pointSeen r
      (c :: n, rest)
    else if c = '.' ∧ pointSeen = false then
      let (n, rest) := spanNumber true r
      (c :: n, rest)
    else ([], c :: r)

/-- Nothing is lost between a number and what follows it. -/
theorem spanNumber_append (pointSeen : Bool) (s : List Char) :
    (spanNumber pointSeen s).1 ++ (spanNumber pointSeen s).2 = s := by
  induction s generalizing pointSeen with
  | nil => rfl
  | cons c r ih =>
    simp only [spanNumber]
    split
    · simp [ih]
    · split
      · simp [ih]
      · rfl

/-- The token at the start of a text that starts with no blank, and what follows it. A minus sign
subtracts only if `bound`, that is if an operand is complete before it. -/
def firstToken? (bound : Bool) : List Char → Option (Token × List Char)
  | [] => none
  | c :: r =>
    if Token.isNumeric c then
      let (n, rest) := spanNumber false (c :: r)
      some (.number (String.ofList n), rest)
    else if c = '-' ∧ bound = false then some (.operator .negation, r)
    else match Token.ofSign? c with
      | some t => some (t, r)
      | none =>
        if isNameLetter c then
          some (.ofWord (String.ofList (c :: r.takeWhile isNameLetter)), r.dropWhile isNameLetter)
        else none

/-- The start of a number belongs to the number. -/
theorem length_spanNumber_lt {c : Char} (r : List Char) (h : Token.isNumeric c = true) :
    (spanNumber false (c :: r)).2.length < (c :: r).length := by
  have lost := congrArg List.length (spanNumber_append false (c :: r))
  have first : (spanNumber false (c :: r)).1 ≠ [] := by
    simp only [Token.isNumeric, Bool.or_eq_true, beq_iff_eq] at h
    unfold spanNumber
    split
    · simp
    · split
      · simp
      · simp_all
  have := List.length_pos_iff.2 first
  rw [List.length_append] at lost
  omega

/-- A token is not empty. -/
theorem length_lt_of_firstToken? {bound : Bool} {s rest : List Char} {t : Token}
    (h : firstToken? bound s = some (t, rest)) : rest.length < s.length := by
  cases s with
  | nil => simp [firstToken?] at h
  | cons c r =>
    simp only [firstToken?] at h
    split at h
    · next hc =>
      simp only [Option.some.injEq, Prod.mk.injEq] at h
      exact h.2 ▸ length_spanNumber_lt r hc
    · split at h
      · simp_all
      · split at h
        · simp_all
        · split at h
          · simp only [Option.some.injEq, Prod.mk.injEq] at h
            have := (List.dropWhile_sublist isNameLetter (l := r)).length_le
            rw [← h.2, List.length_cons]
            omega
          · simp at h

end Lexer

/-- A place in a text. -/
structure Lexer where
  /-- What is left to read. -/
  rest : List Char
  /-- Whether an operand is complete before this place. -/
  bound : Bool := false
  /-- Whether the last token was a number. -/
  afterNumber : Bool := false
  deriving DecidableEq, Repr

namespace Lexer

/-- The start of a text. -/
def ofString (s : String) : Lexer :=
  { rest := s.toList }

/-- The place behind a token. -/
def after (t : Token) (rest : List Char) : Lexer :=
  { rest, bound := t.completesOperand, afterNumber := t.isNumber }

/-- The next token, or the failure to read one, and the place behind it; none at the end of the
text. Two numbers must have a blank between them: what would be a second one starts with the second
point of the first. Behind a failure nothing is left to read. -/
def next (l : Lexer) : Option (Except Failure Token) × Lexer :=
  let text := l.rest.dropWhile Text.isBlank
  let blankBefore := l.rest.head?.any Text.isBlank
  let exhausted := { l with rest := [] }
  if text = [] then (none, exhausted)
  else match firstToken? l.bound text with
    | none => (some (.error (.unreadable (String.ofList text))), exhausted)
    | some (t, rest) =>
      if t.isNumber && l.afterNumber && !blankBefore then
        (some (.error (.unreadable (String.ofList text))), exhausted)
      else (some (.ok t), after t rest)

/-- What a reading gives: nothing behind the last blanks, a failure with the text that is left, or
the token at the start of that text. -/
theorem next_cases {l l' : Lexer} {item : Option (Except Failure Token)}
    (h : l.next = (item, l')) :
    let text := l.rest.dropWhile Text.isBlank
    (item = none ∧ text = [] ∧ l'.rest = []) ∨
    (item = some (.error (.unreadable (String.ofList text))) ∧ text ≠ [] ∧ l'.rest = []) ∨
    ∃ t rest, item = some (.ok t) ∧ firstToken? l.bound text = some (t, rest) ∧
      (t.isNumber && l.afterNumber && !l.rest.head?.any Text.isBlank) = false ∧
      l' = after t rest := by
  intro text
  simp only [next] at h
  split at h
  · next ended =>
    obtain ⟨rfl, rfl⟩ := Prod.mk.inj h
    exact .inl ⟨rfl, ended, rfl⟩
  · next more =>
    split at h
    · obtain ⟨rfl, rfl⟩ := Prod.mk.inj h
      exact .inr (.inl ⟨rfl, more, rfl⟩)
    · next t rest first =>
      split at h
      · obtain ⟨rfl, rfl⟩ := Prod.mk.inj h
        exact .inr (.inl ⟨rfl, more, rfl⟩)
      · next apart =>
        obtain ⟨rfl, rfl⟩ := Prod.mk.inj h
        exact .inr (.inr ⟨t, rest, rfl, first, Bool.eq_false_iff.mpr apart, rfl⟩)

/-- A token is the one at the start of the text behind the blanks. -/
theorem firstToken?_of_next {l l' : Lexer} {t : Token} (h : l.next = (some (.ok t), l')) :
    ∃ rest, firstToken? l.bound (l.rest.dropWhile Text.isBlank) = some (t, rest) ∧
      (t.isNumber && l.afterNumber && !l.rest.head?.any Text.isBlank) = false ∧
      l' = after t rest := by
  rcases next_cases h with ⟨ended, -⟩ | ⟨failed, -⟩ | ⟨t', rest, read, first, apart, place⟩
  · cases ended
  · cases failed
  · cases read
    exact ⟨rest, first, apart, place⟩

/-- Each token shortens the text that is left. -/
theorem length_lt_of_next {l l' : Lexer} {t : Token} (h : l.next = (some (.ok t), l')) :
    l'.rest.length < l.rest.length := by
  obtain ⟨rest, first, -, rfl⟩ := firstToken?_of_next h
  calc rest.length
    _ < (l.rest.dropWhile Text.isBlank).length := length_lt_of_firstToken? first
    _ ≤ l.rest.length := (List.dropWhile_sublist Text.isBlank).length_le

/-- The outcome of reading a text to its end. -/
structure Scan where
  /-- The tokens, up to the failure if there is one. -/
  tokens : List Token
  /-- The failure that ended the reading. -/
  failure : Option Failure
  deriving DecidableEq, Repr

/-- Reads on from a place until nothing is left or a token cannot be read. -/
def scan (l : Lexer) : Scan :=
  match _read : l.next with
  | (none, _) => ⟨[], none⟩
  | (some (.error e), _) => ⟨[], some e⟩
  | (some (.ok t), l') =>
    let s := l'.scan
    ⟨t :: s.tokens, s.failure⟩
termination_by l.rest.length
decreasing_by exact length_lt_of_next _read

/-- At the end of the text there are no more tokens. -/
theorem scan_of_end {l l' : Lexer} (h : l.next = (none, l')) : l.scan = ⟨[], none⟩ := by
  rw [scan]
  split <;> simp_all

/-- A failure ends the reading. -/
theorem scan_of_failure {l l' : Lexer} {e : Failure} (h : l.next = (some (.error e), l')) :
    l.scan = ⟨[], some e⟩ := by
  rw [scan]
  split <;> simp_all

/-- Behind a token the reading goes on. -/
theorem scan_of_token {l l' : Lexer} {t : Token} (h : l.next = (some (.ok t), l')) :
    l.scan = ⟨t :: l'.scan.tokens, l'.scan.failure⟩ := by
  rw [scan]
  split <;> simp_all

/-- Induction along a reading, which ends, fails, or goes on behind a token. -/
@[elab_as_elim]
theorem scan_induction {motive : Lexer → Prop}
    (ended : ∀ l l', l.next = (none, l') → motive l)
    (failed : ∀ l l' e, l.next = (some (.error e), l') → motive l)
    (token : ∀ l l' t, l.next = (some (.ok t), l') → motive l' → motive l) (l : Lexer) :
    motive l := by
  -- each token shortens what is left to read
  induction size : l.rest.length using Nat.strongRecOn generalizing l with
  | _ n ih =>
    cases h : l.next with
    | mk item l' =>
      rcases item with _ | ⟨e | t⟩
      · exact ended l l' h
      · exact failed l l' e h
      · exact token l l' t h (ih _ (size ▸ length_lt_of_next h) l' rfl)

end Lexer

/-- The tokens of an expression, if it can be read to its end. -/
def Expression.tokens (expression : String) : Except Failure (List Token) :=
  let scan := (Lexer.ofString expression).scan
  match scan.failure with
  | none => .ok scan.tokens
  | some e => .error e

end DeskCalculator
