import DeskCalculator.Token.Lexer

/-!
# Reading by the first character

The first character that is left decides how the reading goes on: a blank is skipped, a digit or a
point starts a number, a letter a word, a sign stands for itself, and any other character ends the
reading. A place is written as what is left, whether an operand is complete before it, and whether
the last token was a number.

## Main results

* `Lexer.scan_nil`, `Lexer.scan_blank`, `Lexer.scan_number`, `Lexer.scan_glued`,
  `Lexer.scan_word`, `Lexer.scan_sign`, `Lexer.scan_negation`, `Lexer.scan_foreign`: the cases
* `Lexer.exists_unreadable_of_scan`: the one way in which reading fails
* `Lexer.item_eq_getElem?`, `Lexer.item_cases`: reading again and again gives what `Lexer.scan`
  collects
-/

namespace DeskCalculator

/-! ## Classes of characters -/

theorem Token.isBlank_of_isNumeric {c : Char} (h : isNumeric c = true) :
    Text.isBlank c = false := by
  simp only [isNumeric, Bool.or_eq_true, beq_iff_eq] at h
  rcases h with h | rfl
  · simp only [Char.isDigit, ge_iff_le, Bool.and_eq_true, decide_eq_true_eq, UInt32.le_iff_toNat_le]
      at h
    have lower : 48 ≤ c.toNat := h.1
    have upper : c.toNat ≤ 57 := h.2
    simp only [Text.isBlank, Bool.or_eq_false_iff, Bool.and_eq_false_iff, decide_eq_false_iff_not,
      beq_eq_false_iff_ne]
    omega
  · rfl

theorem Token.isBlank_of_ofSign? {c : Char} {t : Token} (h : ofSign? c = some t) :
    Text.isBlank c = false := by
  unfold ofSign? at h
  split at h <;> first | rfl | simp at h

theorem Token.isNumeric_of_ofSign? {c : Char} {t : Token} (h : ofSign? c = some t) :
    isNumeric c = false := by
  unfold ofSign? at h
  split at h <;> first | rfl | simp at h

theorem Token.isNumber_of_ofSign? {c : Char} {t : Token} (h : ofSign? c = some t) :
    t.isNumber = false := by
  unfold ofSign? at h
  split at h <;> simp at h <;> subst h <;> rfl

theorem Token.isNumber_ofWord (w : String) : (ofWord w).isNumber = false := by
  unfold ofWord
  split
  · rfl
  · split <;> rfl

namespace Lexer

/-- What can be checked of each of the letters holds of a letter. -/
theorem of_isNameLetter {p : Char → Bool} (all : nameLetters.all p = true) {c : Char}
    (h : isNameLetter c = true) : p c = true :=
  List.all_eq_true.mp all c (by simpa [isNameLetter] using h)

theorem isBlank_of_isNameLetter {c : Char} (h : isNameLetter c = true) :
    Text.isBlank c = false := by
  simpa using of_isNameLetter (p := fun d => !Text.isBlank d) (by decide) h

theorem isNumeric_of_isNameLetter {c : Char} (h : isNameLetter c = true) :
    Token.isNumeric c = false := by
  simpa using of_isNameLetter (p := fun d => !Token.isNumeric d) (by decide) h

theorem ofSign?_of_isNameLetter {c : Char} (h : isNameLetter c = true) :
    Token.ofSign? c = none := by
  simpa using of_isNameLetter (p := fun d => (Token.ofSign? d).isNone) (by decide) h

theorem isNumeric_of_isBlank {c : Char} (h : Text.isBlank c = true) :
    Token.isNumeric c = false := by
  rw [Bool.eq_false_iff]
  intro numeric
  exact Bool.false_ne_true ((Token.isBlank_of_isNumeric numeric).symm.trans h)

theorem isNameLetter_of_isBlank {c : Char} (h : Text.isBlank c = true) :
    isNameLetter c = false := by
  rw [Bool.eq_false_iff]
  intro letter
  exact Bool.false_ne_true ((isBlank_of_isNameLetter letter).symm.trans h)

theorem isNameLetter_of_isNumeric {c : Char} (h : Token.isNumeric c = true) :
    isNameLetter c = false := by
  rw [Bool.eq_false_iff]
  intro letter
  exact Bool.false_ne_true ((isNumeric_of_isNameLetter letter).symm.trans h)

theorem isNameLetter_of_ofSign? {c : Char} {t : Token} (h : Token.ofSign? c = some t) :
    isNameLetter c = false := by
  rw [Bool.eq_false_iff]
  intro letter
  exact Option.some_ne_none t (h.symm.trans (ofSign?_of_isNameLetter letter))

/-! ## One token -/

/-- With at most one point a run of digits and points is read as a whole. -/
theorem spanNumber_of_numeric {seen : Bool} {w rest : List Char}
    (numeric : ∀ x ∈ w, Token.isNumeric x = true) (points : w.count '.' + seen.toNat ≤ 1)
    (stop : ∀ y ∈ rest.head?, Token.isNumeric y = true → y = '.' ∧ w.count '.' + seen.toNat = 1) :
    spanNumber seen (w ++ rest) = (w, rest) := by
  induction w generalizing seen with
  | nil =>
    rcases rest with _ | ⟨y, rest⟩
    · rfl
    · have := stop y rfl
      by_cases hy : Token.isNumeric y = true
      · obtain ⟨rfl, hs⟩ := this hy
        have : seen = true := by cases seen <;> simp_all
        simp [spanNumber, this]
      · simp only [Token.isNumeric, Bool.or_eq_true, beq_iff_eq, not_or] at hy
        simp [spanNumber, hy.1, hy.2]
  | cons x w ih =>
    have hx := numeric x List.mem_cons_self
    have hw : ∀ z ∈ w, Token.isNumeric z = true := fun z hz => numeric z (List.mem_cons_of_mem _ hz)
    by_cases digit : x.isDigit = true
    · have point : x ≠ '.' := by rintro rfl; exact absurd digit (by decide)
      rw [List.count_cons_of_ne point] at points stop
      simp [spanNumber, digit, ih hw points stop]
    · obtain rfl : x = '.' := by simpa [Token.isNumeric, digit] using hx
      rw [List.count_cons_self] at points stop
      obtain rfl : seen = false := by cases seen <;> simp_all
      have behind : spanNumber true (w ++ rest) = (w, rest) :=
        ih hw (by simpa using points) (by simpa using stop)
      simp [spanNumber, behind]

section Next

variable {c : Char} {r : List Char} {bound afterNumber : Bool}

theorem firstToken?_of_isNumeric (h : Token.isNumeric c = true) :
    firstToken? bound (c :: r) =
      some (.number (String.ofList (spanNumber false (c :: r)).1),
        (spanNumber false (c :: r)).2) := by
  simp [firstToken?, h]

theorem firstToken?_of_isNameLetter (h : isNameLetter c = true) :
    firstToken? bound (c :: r) =
      some (.ofWord (String.ofList (c :: r.takeWhile isNameLetter)), r.dropWhile isNameLetter) := by
  have minus : c ≠ '-' := by rintro rfl; exact absurd h (by decide)
  simp [firstToken?, h, isNumeric_of_isNameLetter h, ofSign?_of_isNameLetter h, minus]

theorem firstToken?_of_ofSign? {t : Token} (h : Token.ofSign? c = some t)
    (minus : c = '-' → bound = true) : firstToken? bound (c :: r) = some (t, r) := by
  have : ¬ (c = '-' ∧ bound = false) := fun ⟨hc, hb⟩ => by simp [minus hc] at hb
  simp [firstToken?, h, Token.isNumeric_of_ofSign? h, this]

theorem firstToken?_minus : firstToken? false ('-' :: r) = some (.operator .negation, r) := rfl

theorem firstToken?_eq_none (numeric : Token.isNumeric c = false) (sign : Token.ofSign? c = none)
    (letter : isNameLetter c = false) : firstToken? bound (c :: r) = none := by
  have minus : c ≠ '-' := by rintro rfl; simp [Token.ofSign?] at sign
  simp [firstToken?, numeric, sign, letter, minus]

/-- At a character that is not blank the first token is read, unless it would be a second number
that nothing divides from the first. -/
theorem next_of_not_isBlank (h : Text.isBlank c = false) :
    next ⟨c :: r, bound, afterNumber⟩ =
      match firstToken? bound (c :: r) with
      | none => (some (.error (.unreadable (String.ofList (c :: r)))), ⟨[], bound, afterNumber⟩)
      | some (t, rest) =>
        if t.isNumber && afterNumber then
          (some (.error (.unreadable (String.ofList (c :: r)))), ⟨[], bound, afterNumber⟩)
        else (some (.ok t), after t rest) := by
  cases hf : firstToken? bound (c :: r) <;> simp [next, h, hf]

/-- Behind a blank the next token is read as at the blank, but never as one that would have to be
divided from a number. -/
theorem next_of_isBlank (h : Text.isBlank c = true) :
    (next ⟨c :: r, bound, afterNumber⟩).1 = (next ⟨r, bound, false⟩).1 ∧
      ∀ t, (next ⟨r, bound, false⟩).1 = some (.ok t) →
        (next ⟨c :: r, bound, afterNumber⟩).2 = (next ⟨r, bound, false⟩).2 := by
  by_cases done : r.dropWhile Text.isBlank = []
  · simp [next, h, done]
  · cases hf : firstToken? bound (r.dropWhile Text.isBlank) <;> simp [next, h, done, hf]

end Next

/-! ## The rest of the text -/

section Scan

variable {c : Char} {r : List Char} {bound afterNumber : Bool}

@[simp] theorem scan_nil : scan ⟨[], bound, afterNumber⟩ = ⟨[], none⟩ :=
  scan_of_end rfl

theorem scan_of_firstToken? {t : Token} {rest : List Char} (blank : Text.isBlank c = false)
    (h : firstToken? bound (c :: r) = some (t, rest))
    (apart : (t.isNumber && afterNumber) = false) :
    scan ⟨c :: r, bound, afterNumber⟩ =
      ⟨t :: (scan (after t rest)).tokens, (scan (after t rest)).failure⟩ :=
  scan_of_token (by rw [next_of_not_isBlank blank, h]; simp [apart])

/-- A blank is skipped, and divides two numbers. -/
theorem scan_blank (h : Text.isBlank c = true) :
    scan ⟨c :: r, bound, afterNumber⟩ = scan ⟨r, bound, false⟩ := by
  obtain ⟨read, place⟩ : (next ⟨c :: r, bound, afterNumber⟩).1 = (next ⟨r, bound, false⟩).1 ∧ _ :=
    next_of_isBlank h
  -- both places read the same item, and behind a token they are the same place
  cases hn : next ⟨r, bound, false⟩ with
  | mk item l =>
    simp only [hn] at read place
    rcases item with _ | ⟨e | t⟩
    · rw [scan_of_end hn, scan_of_end (Prod.ext read rfl)]
    · rw [scan_of_failure hn, scan_of_failure (Prod.ext read rfl)]
    · rw [scan_of_token hn, scan_of_token (Prod.ext read (place t rfl))]

theorem scan_blanks {s : List Char} (h : ∀ d ∈ s, Text.isBlank d = true) (apart : s ≠ []) :
    scan ⟨s ++ r, bound, afterNumber⟩ = scan ⟨r, bound, false⟩ := by
  induction s generalizing afterNumber with
  | nil => exact absurd rfl apart
  | cons d s ih =>
    rw [List.cons_append, scan_blank (h d List.mem_cons_self)]
    rcases s with _ | ⟨e, s⟩
    · rfl
    · exact ih (fun d hd => h d (List.mem_cons_of_mem _ hd)) (by simp)

theorem scan_number {w : List Char} (ne : w ≠ []) (numeric : ∀ x ∈ w, Token.isNumeric x = true)
    (points : w.count '.' ≤ 1)
    (stop : ∀ y ∈ r.head?, Token.isNumeric y = true → y = '.' ∧ w.count '.' = 1) :
    scan ⟨w ++ r, bound, false⟩ =
      let s := scan ⟨r, true, true⟩
      ⟨.number (String.ofList w) :: s.tokens, s.failure⟩ := by
  obtain ⟨x, w, rfl⟩ := List.exists_cons_of_ne_nil ne
  have hx := numeric x List.mem_cons_self
  have first : firstToken? bound (x :: (w ++ r)) = _ := firstToken?_of_isNumeric hx
  rw [← List.cons_append,
    spanNumber_of_numeric numeric (by simpa using points) (by simpa using stop)] at first
  exact scan_of_firstToken? (Token.isBlank_of_isNumeric hx) first (by simp)

/-- Nothing that looks like a number can be read right behind a number. -/
theorem scan_glued (h : Token.isNumeric c = true) :
    scan ⟨c :: r, bound, true⟩ = ⟨[], some (.unreadable (String.ofList (c :: r)))⟩ :=
  scan_of_failure (by
    rw [next_of_not_isBlank (Token.isBlank_of_isNumeric h), firstToken?_of_isNumeric h]
    rfl)

theorem scan_word {w : List Char} (ne : w ≠ []) (letters : ∀ x ∈ w, isNameLetter x = true)
    (stop : ∀ y ∈ r.head?, isNameLetter y = false) :
    scan ⟨w ++ r, bound, afterNumber⟩ =
      let t := Token.ofWord (String.ofList w)
      let s := scan ⟨r, t.completesOperand, false⟩
      ⟨t :: s.tokens, s.failure⟩ := by
  obtain ⟨x, w, rfl⟩ := List.exists_cons_of_ne_nil ne
  have hx := letters x List.mem_cons_self
  have hw : ∀ z ∈ w, isNameLetter z = true := fun z hz => letters z (List.mem_cons_of_mem _ hz)
  have rest : r.takeWhile isNameLetter = [] ∧ r.dropWhile isNameLetter = r := by
    rcases r with _ | ⟨y, r⟩
    · exact ⟨rfl, rfl⟩
    · simp [stop y rfl]
  have number := Token.isNumber_ofWord (String.ofList (x :: w))
  have first : firstToken? bound (x :: (w ++ r)) = _ := firstToken?_of_isNameLetter hx
  rw [List.takeWhile_append_of_pos hw, List.dropWhile_append_of_pos hw, rest.1, rest.2,
    List.append_nil] at first
  rw [List.cons_append, scan_of_firstToken? (isBlank_of_isNameLetter hx) first
    (by rw [number]; rfl)]
  simp only [after, number]

/-- A sign stands for itself; the minus sign only behind an operand. -/
theorem scan_sign {t : Token} (h : Token.ofSign? c = some t) (minus : c = '-' → bound = true) :
    scan ⟨c :: r, bound, afterNumber⟩ =
      let s := scan ⟨r, t.completesOperand, false⟩
      ⟨t :: s.tokens, s.failure⟩ := by
  have number := Token.isNumber_of_ofSign? h
  rw [scan_of_firstToken? (Token.isBlank_of_ofSign? h) (firstToken?_of_ofSign? h minus)
    (by rw [number]; rfl)]
  simp only [after, number]

theorem scan_negation :
    scan ⟨'-' :: r, false, afterNumber⟩ =
      let s := scan ⟨r, false, false⟩
      ⟨.operator .negation :: s.tokens, s.failure⟩ :=
  scan_of_firstToken? rfl firstToken?_minus rfl

theorem scan_foreign (blank : Text.isBlank c = false) (numeric : Token.isNumeric c = false)
    (sign : Token.ofSign? c = none) (letter : isNameLetter c = false) :
    scan ⟨c :: r, bound, afterNumber⟩ = ⟨[], some (.unreadable (String.ofList (c :: r)))⟩ :=
  scan_of_failure (by
    rw [next_of_not_isBlank blank, firstToken?_eq_none numeric sign letter])

end Scan

/-! ## How reading fails -/

/-- Reading fails in one way only. -/
theorem exists_unreadable_of_scan {l : Lexer} {e : Failure} (h : l.scan.failure = some e) :
    ∃ rest, e = .unreadable rest := by
  induction l using scan_induction with
  | ended l l' read => simp [scan_of_end read] at h
  | failed l l' e' read =>
    rw [scan_of_failure read, Option.some.injEq] at h
    subst h
    rcases next_cases read with ⟨ended, -⟩ | ⟨failed, -⟩ | ⟨t, rest, token, -⟩
    · cases ended
    · exact ⟨_, Except.error.inj (Option.some.inj failed)⟩
    · cases token
  | token l l' t read ih =>
    rw [scan_of_token read] at h
    exact ih h

/-! ## Reading again and again -/

/-- What the reading with number `n` from a place gives, counted from zero. -/
def item (l : Lexer) : Nat → Option (Except Failure Token)
  | 0 => l.next.1
  | n + 1 => l.next.2.item n

theorem item_of_rest_eq_nil {l : Lexer} (h : l.rest = []) (n : Nat) : l.item n = none := by
  induction n generalizing l with
  | zero => simp [item, next, h]
  | succ n ih => exact ih (by simp [next, h])

theorem rest_of_next {l l' : Lexer} {o : Option (Except Failure Token)} (h : l.next = (o, l'))
    (ended : ∀ t, o ≠ some (.ok t)) : l'.rest = [] := by
  rcases next_cases h with ⟨-, -, none⟩ | ⟨-, -, none⟩ | ⟨t, rest, token, -⟩
  · exact none
  · exact none
  · exact absurd token (ended t)

/-- Everything that reading a text to its end gives: the tokens, then the failure if there is
one. -/
def Scan.items (s : Scan) : List (Except Failure Token) :=
  s.tokens.map .ok ++ (s.failure.map .error).toList

/-- Reading again and again gives the tokens of the text one after the other, then the failure if
there is one, and then nothing. -/
theorem item_eq_getElem? (l : Lexer) (n : Nat) : l.item n = l.scan.items[n]? := by
  -- the first reading takes the first item, and the others read on from the place behind it
  induction n generalizing l with
  | zero =>
    cases h : l.next with
    | mk o l' =>
      rcases o with _ | ⟨e | t⟩
      · simp [item, h, scan_of_end h, Scan.items]
      · simp [item, h, scan_of_failure h, Scan.items]
      · simp [item, h, scan_of_token h, Scan.items]
  | succ n ih =>
    cases h : l.next with
    | mk o l' =>
      rcases o with _ | ⟨e | t⟩
      · have none := item_of_rest_eq_nil (rest_of_next h (by simp)) n
        simp [item, h, scan_of_end h, Scan.items, none]
      · have none := item_of_rest_eq_nil (rest_of_next h (by simp)) n
        simp [item, h, scan_of_failure h, Scan.items, none]
      · simp [item, h, ih, scan_of_token h, Scan.items]

/-- An item of the reading is a token, or the failure that comes behind all tokens. -/
theorem item_cases {l : Lexer} {i : Nat} {x : Except Failure Token} (h : x ∈ l.item i) :
    (∃ t, x = .ok t ∧ l.scan.tokens[i]? = some t) ∨
      ∃ e, x = .error e ∧ i = l.scan.tokens.length ∧ l.scan.failure = some e := by
  rw [item_eq_getElem?, Scan.items, List.getElem?_append, List.length_map] at h
  split at h
  · rw [List.getElem?_map, Option.mem_def, Option.map_eq_some_iff] at h
    obtain ⟨t, read, rfl⟩ := h
    exact .inl ⟨t, rfl, read⟩
  · next behind =>
    cases failure : l.scan.failure with
    | none => simp [failure] at h
    | some e =>
      simp only [failure, Option.map_some, Option.toList_some, Option.mem_def,
        List.getElem?_singleton] at h
      split at h
      · exact .inr ⟨e, (Option.some.inj h).symm, by omega, rfl⟩
      · simp at h

theorem item_of_getElem? {l : Lexer} {i : Nat} {t : Token} (h : l.scan.tokens[i]? = some t) :
    l.item i = some (.ok t) := by
  obtain ⟨lt, -⟩ := List.getElem?_eq_some_iff.mp h
  rw [item_eq_getElem?, Scan.items, List.getElem?_append_left (by simpa using lt),
    List.getElem?_map, h]
  rfl

theorem item_length_of_failure {l : Lexer} {e : Failure} (h : l.scan.failure = some e) :
    l.item l.scan.tokens.length = some (.error e) := by
  rw [item_eq_getElem?, Scan.items, List.getElem?_append_right (by simp), List.length_map,
    Nat.sub_self, h]
  rfl

end Lexer

end DeskCalculator
