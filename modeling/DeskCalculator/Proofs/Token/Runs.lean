import DeskCalculator.Proofs.Token.Reading
import Mathlib.Data.List.DropRight
import Mathlib.Data.List.SplitBy
import Mathlib.Order.Bounds.Defs

/-!
# The tokens of a text are its runs

Said without reading from left to right: a text falls into maximal runs, the runs of digits and
points, the runs of letters, and every other character alone. Each run that is not blank writes one
token. The text offends where a character stands that no token is written with, or the second point
of a run; reading gives the tokens of the runs before the first offence.

## Main definitions

* `Lexer.runs`: the maximal runs of a text
* `Lexer.tokensBehind`: the tokens of the runs of a text, behind a token
* `Lexer.Offends`: the positions at which a text offends

## Main results

* `Lexer.readsUpTo`: reading stops at the first offence, and gives the tokens of the runs
  before it
* `Lexer.items_until_offence`: a text is accepted if it does not offend, and read up to its first
  offence otherwise
-/

namespace DeskCalculator

namespace Lexer

/-! ## Runs -/

/-- Neighbours in one run: digits and points, or letters. -/
def joins (a b : Char) : Bool :=
  (Token.isNumeric a && Token.isNumeric b) || (isNameLetter a && isNameLetter b)

/-- The maximal runs of a text, from left to right. -/
def runs (s : List Char) : List (List Char) :=
  s.splitBy joins

/-- Whether a minus sign behind a token subtracts: behind a number, the constant, a closing bracket
and the factorial sign. -/
def subtractsBehind : Option Token → Bool
  | some (.number _) | some .pi | some .closing | some (.operator .factorial) => true
  | _ => false

/-- The token that a run writes behind another token; a blank writes none. -/
def tokenOfRun (last : Option Token) : List Char → Option Token
  | [] => none
  | c :: r =>
    if Text.isBlank c then none
    else if Token.isNumeric c then some (.number (String.ofList (c :: r)))
    else if isNameLetter c then some (.ofWord (String.ofList (c :: r)))
    else if c = '-' ∧ subtractsBehind last = false then some (.operator .negation)
    else Token.ofSign? c

/-- The tokens that runs write one after the other, the first one behind `last`. -/
def tokensOfRuns (last : Option Token) : List (List Char) → List Token
  | [] => []
  | run :: rest =>
    match tokenOfRun last run with
    | none => tokensOfRuns last rest
    | some t => t :: tokensOfRuns (some t) rest

/-- The tokens of the runs of a text, the first one behind `last`. -/
def tokensBehind (last : Option Token) (s : List Char) : List Token :=
  tokensOfRuns last (runs s)

theorem subtractsBehind_some (t : Token) : subtractsBehind (some t) = t.completesOperand := by
  rcases t with _ | _ | (_ | _ | _ | _) | _ | _ | _ | _ <;> rfl

/-! ## Offences -/

/-- The characters that tokens are written with, and blanks. -/
def IsAllowed (c : Char) : Prop :=
  c.isDigit = true ∨ c = '.' ∨ c ∈ ['+', '-', '*', '/', '^', '!', '(', ')', ','] ∨
    c ∈ nameLetters ∨ Text.isBlank c = true

instance (c : Char) : Decidable (IsAllowed c) :=
  inferInstanceAs (Decidable (_ ∨ _))

/-- The points in the run of digits and points that ends a text. -/
def pointsInRun (s : List Char) : Nat :=
  (s.rtakeWhile Token.isNumeric).count '.'

/-- Whether a character may not stand behind a text: nowhere, or because it is the second point of
its run. -/
def OffendsBehind (before : List Char) (c : Char) : Prop :=
  ¬ IsAllowed c ∨ c = '.' ∧ pointsInRun before = 1

instance (before : List Char) (c : Char) : Decidable (OffendsBehind before c) :=
  inferInstanceAs (Decidable (_ ∨ _))

/-- Whether a text offends at a position. -/
def Offends (s : List Char) (i : Nat) : Prop :=
  ∃ c ∈ s[i]?, OffendsBehind (s.take i) c

instance (s : List Char) (i : Nat) : Decidable (Offends s i) :=
  decidable_of_iff (s[i]?.any (fun c => decide (OffendsBehind (s.take i) c)) = true) (by
    simp [Offends, Option.any_eq_true])

theorem Offends.lt_length {s : List Char} {i : Nat} (h : Offends s i) : i < s.length := by
  obtain ⟨c, hc, -⟩ := h
  exact (List.getElem?_eq_some_iff.mp hc).1

/-- A text that nowhere offends. -/
def IsReadable (s : List Char) : Prop :=
  ∀ i, ¬ Offends s i

instance (s : List Char) : Decidable (IsReadable s) :=
  decidable_of_iff (∀ i < s.length, ¬ Offends s i)
    ⟨fun h i hi => h i hi.lt_length hi, fun h i _ => h i⟩

instance (s : List Char) (i : Nat) : Decidable (IsLeast {i | Offends s i} i) :=
  decidable_of_iff (Offends s i ∧ ∀ j < i, ¬ Offends s j)
    ⟨fun h => ⟨h.1, fun j hj => not_lt.mp fun lt => h.2 j lt hj⟩,
      fun h => ⟨h.1, fun _ hj hs => absurd (h.2 hs) (not_le.mpr hj)⟩⟩

/-! ## The tokens of a text by its first run -/

section Tokens

variable {last : Option Token} {c : Char} {r : List Char}

@[simp] theorem tokensBehind_nil : tokensBehind last [] = [] := rfl

theorem tokensBehind_append {w b : List Char} (one : runs w = [w])
    (apart : ∀ x ∈ w.getLast?, ∀ y ∈ b.head?, joins x y = false) :
    tokensBehind last (w ++ b) =
      match tokenOfRun last w with
      | none => tokensBehind last b
      | some t => t :: tokensBehind (some t) b := by
  have split : runs (w ++ b) = w :: runs b := by
    simp only [runs] at one ⊢
    rw [List.splitBy_append apart, one, List.singleton_append]
  rw [tokensBehind, split]
  rfl

theorem tokensBehind_cons (numeric : Token.isNumeric c = false) (letter : isNameLetter c = false) :
    tokensBehind last (c :: r) =
      match tokenOfRun last [c] with
      | none => tokensBehind last r
      | some t => t :: tokensBehind (some t) r :=
  tokensBehind_append (w := [c]) rfl (by simp [joins, numeric, letter])

theorem tokensBehind_blank (h : Text.isBlank c = true) :
    tokensBehind last (c :: r) = tokensBehind last r := by
  rw [tokensBehind_cons (isNumeric_of_isBlank h) (isNameLetter_of_isBlank h)]
  simp [tokenOfRun, h]

/-- A sign writes its token; a minus sign that does not subtract writes another one. -/
theorem tokensBehind_sign {t : Token} (h : Token.ofSign? c = some t)
    (minus : c = '-' → subtractsBehind last = true) :
    tokensBehind last (c :: r) = t :: tokensBehind (some t) r := by
  have : ¬ (c = '-' ∧ subtractsBehind last = false) := fun ⟨hc, hl⟩ => by simp [minus hc] at hl
  rw [tokensBehind_cons (Token.isNumeric_of_ofSign? h) (isNameLetter_of_ofSign? h)]
  simp [tokenOfRun, Token.isBlank_of_ofSign? h, Token.isNumeric_of_ofSign? h,
    isNameLetter_of_ofSign? h, this, h]

theorem tokensBehind_negation (h : subtractsBehind last = false) :
    tokensBehind last ('-' :: r) =
      .operator .negation :: tokensBehind (some (.operator .negation)) r := by
  rw [tokensBehind_cons (by decide) (by decide)]
  simp [tokenOfRun, h, show Text.isBlank '-' = false from rfl,
    show Token.isNumeric '-' = false from rfl, show isNameLetter '-' = false from rfl]

theorem tokensBehind_number {w b : List Char} (ne : w ≠ [])
    (numeric : ∀ x ∈ w, Token.isNumeric x = true)
    (stop : ∀ y ∈ b.head?, Token.isNumeric y = false) :
    tokensBehind last (w ++ b) =
      .number (String.ofList w) :: tokensBehind (some (.number (String.ofList w))) b := by
  obtain ⟨x, w, rfl⟩ := List.exists_cons_of_ne_nil ne
  have chain : (x :: w).IsChain fun a b => joins a b = true :=
    List.Pairwise.isChain (List.pairwise_of_forall_mem_list fun a ha b hb => by
      simp [joins, numeric a ha, numeric b hb])
  rw [tokensBehind_append (List.splitBy_of_isChain ne chain)]
  · have hx := numeric x List.mem_cons_self
    simp [tokenOfRun, hx, Token.isBlank_of_isNumeric hx]
  · intro a ha y hy
    simp [joins, stop y hy, isNameLetter_of_isNumeric (numeric a (List.mem_of_mem_getLast? ha))]

theorem tokensBehind_word {w b : List Char} (ne : w ≠ [])
    (letters : ∀ x ∈ w, isNameLetter x = true) (stop : ∀ y ∈ b.head?, isNameLetter y = false) :
    tokensBehind last (w ++ b) =
      .ofWord (String.ofList w) :: tokensBehind (some (.ofWord (String.ofList w))) b := by
  obtain ⟨x, w, rfl⟩ := List.exists_cons_of_ne_nil ne
  have chain : (x :: w).IsChain fun a b => joins a b = true :=
    List.Pairwise.isChain (List.pairwise_of_forall_mem_list fun a ha b hb => by
      simp [joins, letters a ha, letters b hb])
  rw [tokensBehind_append (List.splitBy_of_isChain ne chain)]
  · have hx := letters x List.mem_cons_self
    simp [tokenOfRun, hx, isBlank_of_isNameLetter hx, isNumeric_of_isNameLetter hx]
  · intro a ha y hy
    simp [joins, stop y hy, isNumeric_of_isNameLetter (letters a (List.mem_of_mem_getLast? ha))]

end Tokens

/-! ## Offences behind a run -/

theorem not_isAllowed {c : Char} (h : ¬ IsAllowed c) :
    Text.isBlank c = false ∧ Token.isNumeric c = false ∧ isNameLetter c = false ∧
      Token.ofSign? c = none := by
  simp only [IsAllowed, not_or, Bool.not_eq_true] at h
  obtain ⟨digit, point, sign, letter, blank⟩ := h
  refine ⟨blank, by simp [Token.isNumeric, digit, point], by simpa [isNameLetter] using letter, ?_⟩
  unfold Token.ofSign?
  split <;> simp_all

theorem IsAllowed.cases {c : Char} (h : IsAllowed c) :
    Text.isBlank c = true ∨ Token.isNumeric c = true ∨ isNameLetter c = true ∨
      ∃ t, Token.ofSign? c = some t := by
  rcases h with h | rfl | h | h | h
  · exact .inr (.inl (by simp [Token.isNumeric, h]))
  · exact .inr (.inl rfl)
  · have signs : ['+', '-', '*', '/', '^', '!', '(', ')', ','].all
        (fun d => (Token.ofSign? d).isSome) = true := by decide
    exact .inr (.inr (.inr (Option.isSome_iff_exists.mp (List.all_eq_true.mp signs c h))))
  · exact .inr (.inr (.inl (by simpa [isNameLetter] using h)))
  · exact .inl h

@[simp] theorem pointsInRun_nil : pointsInRun [] = 0 := rfl

theorem pointsInRun_of_numeric {w : List Char} (h : ∀ x ∈ w, Token.isNumeric x = true) :
    pointsInRun w = w.count '.' := by
  rw [pointsInRun, List.rtakeWhile_eq_self_iff.mpr h]

/-- A run starts anew behind a character that belongs to none. -/
theorem pointsInRun_append_cons (w b : List Char) {y : Char} (h : Token.isNumeric y = false) :
    pointsInRun (w ++ y :: b) = pointsInRun b := by
  -- seen from the end, the run of `b` is complete before `y` is reached
  have run : (w ++ y :: b).rtakeWhile Token.isNumeric = b.rtakeWhile Token.isNumeric := by
    induction b using List.reverseRecOn with
    | nil => rw [List.rtakeWhile_concat_neg _ _ _ (by simp [h]), List.rtakeWhile_nil]
    | append_singleton b z ih =>
      rw [← List.cons_append, ← List.append_assoc, List.rtakeWhile_concat, List.rtakeWhile_concat,
        ih]
  rw [pointsInRun, run, pointsInRun]

/-- Nothing of a text counts behind the end of a run. -/
def Apart (w b : List Char) : Prop :=
  (∀ x ∈ w.getLast?, Token.isNumeric x = false) ∨ ∃ y b', b = y :: b' ∧ Token.isNumeric y = false

theorem Apart.pointsInRun_append {w b : List Char} (h : Apart w b) :
    pointsInRun (w ++ b) = pointsInRun b := by
  rcases h with h | ⟨y, b, rfl, hy⟩
  · rcases List.eq_nil_or_concat w with rfl | ⟨w, x, rfl⟩
    · rfl
    · rw [List.concat_eq_append] at h ⊢
      rw [List.append_assoc, List.singleton_append, pointsInRun_append_cons _ _ (h x (by simp))]
  · rw [pointsInRun_append_cons _ _ hy, ← List.nil_append (y :: b), pointsInRun_append_cons _ _ hy]

theorem Apart.offendsBehind_append {w b : List Char} (h : Apart w b) {c : Char} :
    OffendsBehind (w ++ b) c ↔ OffendsBehind b c := by
  rw [OffendsBehind, OffendsBehind, h.pointsInRun_append]

theorem isReadable_nil : IsReadable [] := by
  rintro i ⟨c, hc, -⟩
  simp at hc

theorem IsReadable.isAllowed_head {c : Char} {r : List Char} (h : IsReadable (c :: r)) :
    IsAllowed c := by
  by_contra hc
  exact h 0 ⟨c, rfl, .inl hc⟩

theorem IsReadable.of_append {w b : List Char} (h : IsReadable (w ++ b)) (apart : Apart w b) :
    IsReadable b := by
  rintro i ⟨c, hc, offence⟩
  have there : (w ++ b)[w.length + i]? = some c := by
    rwa [List.getElem?_append_right (by omega), Nat.add_sub_cancel_left]
  refine h (w.length + i) ⟨c, there, ?_⟩
  rw [List.take_length_add_append]
  -- an offence inside `b` is one behind `w` as well: `w` adds no point to the runs of `b`
  rcases i with _ | i
  · exact .inl (offence.resolve_right (by simp))
  · have : Apart w (b.take (i + 1)) := by
      rcases apart with apart | ⟨y, b', rfl, hy⟩
      · exact .inl apart
      · exact .inr ⟨y, b'.take i, rfl, hy⟩
    exact this.offendsBehind_append.mpr offence

theorem exists_second_point {w : List Char} (h : 1 < w.count '.') :
    ∃ u v, w = u ++ '.' :: v ∧ u.count '.' = 1 := by
  obtain ⟨u, v, rfl, hu⟩ :=
    List.eq_append_cons_of_mem (List.count_pos_iff.mp (Nat.zero_lt_of_lt h))
  have hv : 0 < v.count '.' := by
    simpa [List.count_append, List.count_eq_zero_of_not_mem hu] using h
  obtain ⟨u', v', rfl, hu'⟩ := List.eq_append_cons_of_mem (List.count_pos_iff.mp hv)
  refine ⟨u ++ '.' :: u', v', by simp, ?_⟩
  simp [List.count_append, List.count_eq_zero_of_not_mem hu, List.count_eq_zero_of_not_mem hu']

/-- A run of a readable text has at most one point. -/
theorem IsReadable.count_le_one {w b : List Char} (h : IsReadable (w ++ b))
    (numeric : ∀ x ∈ w, Token.isNumeric x = true) : w.count '.' ≤ 1 := by
  by_contra! two
  obtain ⟨u, v, rfl, hu⟩ := exists_second_point two
  refine h u.length ⟨'.', by simp, .inr ⟨rfl, ?_⟩⟩
  rw [List.append_assoc, List.take_left,
    pointsInRun_of_numeric fun x hx => numeric x (List.mem_append_left _ hx), hu]

/-! ## Reading up to the first offence -/

/-- The failure to read a text on, if there is anything left. -/
def failureAt (rest : List Char) : Option Failure :=
  if rest = [] then none else some (.unreadable (String.ofList rest))

/-- A text stops being readable where it ends or offends. -/
def StopsBehind (before rest : List Char) : Prop :=
  ∀ c ∈ rest.head?, OffendsBehind before c

theorem StopsBehind.of_append {w b rest : List Char} (h : StopsBehind (w ++ b) rest)
    (apart : Apart w b) : StopsBehind b rest :=
  fun c hc => apart.offendsBehind_append.mp (h c hc)

/-- Where reading stops no letter stands: a run of letters ends there. -/
theorem StopsBehind.not_letter {before rest : List Char} (h : StopsBehind before rest) :
    ∀ y ∈ rest.head?, isNameLetter y = false := by
  intro y hy
  rcases h y hy with foreign | ⟨rfl, -⟩
  · exact (not_isAllowed foreign).2.2.1
  · rfl

/-- Where reading stops right behind a number stands its second point, if anything numeric. -/
theorem StopsBehind.second_point {w b rest : List Char} (h : StopsBehind (w ++ b) rest)
    (numeric : ∀ x ∈ w, Token.isNumeric x = true) (stop : ∀ y ∈ b.head?, Token.isNumeric y = false)
    {y : Char} (hy : y ∈ (b ++ rest).head?) (number : Token.isNumeric y = true) :
    b = [] ∧ y = '.' ∧ w.count '.' = 1 := by
  rcases b with _ | ⟨z, b⟩
  · rw [List.append_nil] at h
    rcases h y hy with foreign | ⟨rfl, points⟩
    · rw [(not_isAllowed foreign).2.1] at number
      exact absurd number (by simp)
    · exact ⟨rfl, rfl, pointsInRun_of_numeric numeric ▸ points⟩
  · obtain rfl : z = y := by simpa using hy
    rw [stop z rfl] at number
    exact absurd number (by simp)

theorem length_lt_append {w b : List Char} (ne : w ≠ []) : b.length < (w ++ b).length := by
  have := List.length_pos_iff.mpr ne
  rw [List.length_append]
  omega

theorem exists_run (p : Char → Bool) {c : Char} (hc : p c = true) (r : List Char) :
    ∃ w b, c :: r = w ++ b ∧ w ≠ [] ∧ (∀ x ∈ w, p x = true) ∧ ∀ y ∈ b.head?, p y = false := by
  refine ⟨c :: r.takeWhile p, r.dropWhile p, ?_, by simp, ?_, ?_⟩
  · rw [List.cons_append, List.takeWhile_append_dropWhile]
  · intro x hx
    rcases List.mem_cons.mp hx with rfl | hx
    · exact hc
    · exact List.mem_takeWhile_imp hx
  · intro y hy
    have := List.head?_dropWhile_not p r
    rw [Option.mem_def.mp hy] at this
    simpa using this

/-- Reading a text up to `rest` gives the tokens of its runs, if it is readable and stops there.
Right behind a number it must not go on like one. -/
def ReadsUpTo (before rest : List Char) : Prop :=
  IsReadable before → StopsBehind before rest → ∀ last afterNumber,
    (afterNumber = true → ∀ c ∈ (before ++ rest).head?, Token.isNumeric c = false) →
      scan ⟨before ++ rest, subtractsBehind last, afterNumber⟩ =
        ⟨tokensBehind last before, failureAt rest⟩

section ReadsUpTo

variable {c : Char} {w b r rest : List Char}

theorem ReadsUpTo.nil : ReadsUpTo [] rest := by
  intro _ stops last afterNumber _
  rcases rest with _ | ⟨c, rest⟩
  · rw [List.append_nil, scan_nil]
    rfl
  · have foreign : ¬ IsAllowed c := (stops c rfl).resolve_right (by simp)
    obtain ⟨blank, numeric, letter, sign⟩ := not_isAllowed foreign
    rw [List.nil_append, scan_foreign blank numeric sign letter]
    rfl

/-- Behind the end of a run the rest is read as by itself. -/
theorem ReadsUpTo.behind (h : ReadsUpTo b rest) (readable : IsReadable (w ++ b))
    (stops : StopsBehind (w ++ b) rest) (apart : Apart w b) (last : Option Token) :
    scan ⟨b ++ rest, subtractsBehind last, false⟩ = ⟨tokensBehind last b, failureAt rest⟩ :=
  h (readable.of_append apart) (stops.of_append apart) last false (by simp)

theorem apart_singleton (h : Token.isNumeric c = false) : Apart [c] r :=
  .inl (by simpa using h)

theorem ReadsUpTo.blank (h : ReadsUpTo r rest) (blank : Text.isBlank c = true) :
    ReadsUpTo (c :: r) rest := by
  intro readable stops last afterNumber _
  rw [List.cons_append, scan_blank blank, tokensBehind_blank blank]
  exact h.behind readable stops (apart_singleton (isNumeric_of_isBlank blank)) last

theorem ReadsUpTo.sign (h : ReadsUpTo r rest) {t : Token} (sign : Token.ofSign? c = some t) :
    ReadsUpTo (c :: r) rest := by
  intro readable stops last afterNumber _
  have behind := h.behind readable stops (apart_singleton (Token.isNumeric_of_ofSign? sign))
  by_cases minus : c = '-' ∧ subtractsBehind last = false
  · obtain ⟨rfl, unbound⟩ := minus
    have read := behind (some (.operator .negation))
    rw [subtractsBehind_some] at read
    rw [List.cons_append, unbound, scan_negation, tokensBehind_negation unbound]
    exact congrArg (fun s : Scan => (⟨_ :: s.tokens, s.failure⟩ : Scan)) read
  · have bound : c = '-' → subtractsBehind last = true := by
      intro hc
      simpa [hc] using minus
    have read := behind (some t)
    rw [subtractsBehind_some] at read
    rw [List.cons_append, scan_sign sign bound, tokensBehind_sign sign bound]
    simp only [read]

theorem ReadsUpTo.word (h : ReadsUpTo b rest) (ne : w ≠ [])
    (letters : ∀ x ∈ w, isNameLetter x = true) (stop : ∀ y ∈ b.head?, isNameLetter y = false) :
    ReadsUpTo (w ++ b) rest := by
  intro readable stops last afterNumber _
  have last_letter : ∀ x ∈ w.getLast?, Token.isNumeric x = false := by
    intro x hx
    exact isNumeric_of_isNameLetter (letters x (List.mem_of_mem_getLast? hx))
  have stop' : ∀ y ∈ (b ++ rest).head?, isNameLetter y = false := by
    rcases b with _ | ⟨y, b⟩
    · exact stops.not_letter
    · simpa using stop
  have read := h.behind readable stops (.inl last_letter) (some (.ofWord (String.ofList w)))
  rw [subtractsBehind_some] at read
  rw [List.append_assoc, scan_word ne letters stop', tokensBehind_word ne letters stop]
  simp only [read]

theorem ReadsUpTo.number (h : ReadsUpTo b rest) (ne : w ≠ [])
    (numerics : ∀ x ∈ w, Token.isNumeric x = true)
    (stop : ∀ y ∈ b.head?, Token.isNumeric y = false) : ReadsUpTo (w ++ b) rest := by
  intro readable stops last afterNumber apart
  obtain rfl : afterNumber = false := by
    obtain ⟨x, w, rfl⟩ := List.exists_cons_of_ne_nil ne
    rw [Bool.eq_false_iff]
    intro after
    have := apart after x rfl
    rw [numerics x List.mem_cons_self] at this
    exact absurd this (by simp)
  have points := readable.count_le_one numerics
  have second : ∀ y ∈ (b ++ rest).head?, Token.isNumeric y = true →
      b = [] ∧ y = '.' ∧ w.count '.' = 1 := fun y => stops.second_point numerics stop
  -- the place behind the number: what is numeric there is its second point, which ends the reading
  have read : scan ⟨b ++ rest, subtractsBehind (some (.number (String.ofList w))), true⟩ =
      ⟨tokensBehind (some (.number (String.ofList w))) b, failureAt rest⟩ := by
    by_cases glued : ∃ y ∈ (b ++ rest).head?, Token.isNumeric y = true
    · obtain ⟨y, hy, number⟩ := glued
      obtain ⟨rfl, -, -⟩ := second y hy number
      obtain ⟨rest, rfl⟩ := List.head?_eq_some_iff.mp hy
      rw [List.nil_append, scan_glued number]
      rfl
    · have numberless : ∀ y ∈ (b ++ rest).head?, Token.isNumeric y = false := by
        intro y hy
        exact Bool.eq_false_iff.mpr fun number => glued ⟨y, hy, number⟩
      rcases b with _ | ⟨z, b⟩
      · refine h isReadable_nil (fun y hy => .inl ?_) _ _ fun _ => numberless
        refine (stops y (by simpa using hy)).resolve_right ?_
        rintro ⟨rfl, -⟩
        exact absurd (numberless '.' hy) (by decide)
      · have split : Apart w (z :: b) := .inr ⟨z, b, rfl, stop z rfl⟩
        exact h (readable.of_append split) (stops.of_append split) _ _ fun _ => numberless
  rw [List.append_assoc, scan_number ne numerics points fun y hy number => (second y hy number).2,
    tokensBehind_number ne numerics stop]
  simp only [subtractsBehind] at read
  simp only [read]

end ReadsUpTo

/-- **Reading stops at the first offence.** Behind a readable text that ends or offends there,
exactly the tokens of its runs have been read. -/
theorem readsUpTo (before rest : List Char) : ReadsUpTo before rest := by
  induction hn : before.length using Nat.strong_induction_on generalizing before with
  | _ n ih =>
  subst hn
  rcases before with _ | ⟨c, r⟩
  · exact .nil
  · intro readable
    refine (?_ : ReadsUpTo (c :: r) rest) readable
    rcases readable.isAllowed_head.cases with blank | numeric | letter | ⟨t, sign⟩
    · exact (ih r.length (by simp) r rfl).blank blank
    · obtain ⟨w, b, eq, ne, numerics, stop⟩ := exists_run Token.isNumeric numeric r
      rw [eq] at ih ⊢
      exact (ih b.length (length_lt_append ne) b rfl).number ne numerics stop
    · obtain ⟨w, b, eq, ne, letters, stop⟩ := exists_run isNameLetter letter r
      rw [eq] at ih ⊢
      exact (ih b.length (length_lt_append ne) b rfl).word ne letters stop
    · exact (ih r.length (by simp) r rfl).sign sign

/-- Before its first offence a text is readable, and there reading stops. -/
theorem isReadable_take {s : List Char} {i : Nat} (h : IsLeast {i | Offends s i} i) :
    IsReadable (s.take i) ∧ StopsBehind (s.take i) (s.drop i) ∧ s.drop i ≠ [] := by
  obtain ⟨⟨c, hc, offence⟩, least⟩ := h
  refine ⟨?_, ?_, ?_⟩
  · rintro j ⟨d, hd, offence⟩
    obtain ⟨hj, hd⟩ : j < i ∧ s[j]? = some d := by
      by_cases hj : j < i
      · rw [List.getElem?_take_of_lt hj] at hd
        exact ⟨hj, hd⟩
      · rw [Option.mem_def, List.getElem?_take_eq_none (by omega)] at hd
        exact absurd hd (by simp)
    rw [List.take_take, Nat.min_eq_left hj.le] at offence
    exact absurd (least ⟨d, hd, offence⟩) (by omega)
  · intro d hd
    rw [List.head?_drop] at hd
    obtain rfl : c = d := Option.some.inj (hc.symm.trans hd)
    exact offence
  · intro done
    rw [← List.head?_drop, done] at hc
    exact absurd hc (by simp)

/-- The start of a text is a place behind no token. -/
theorem scan_ofString {s : String} {before rest : List Char} (eq : s.toList = before ++ rest)
    (readable : IsReadable before) (stops : StopsBehind before rest) :
    (ofString s).scan = ⟨tokensBehind none before, failureAt rest⟩ := by
  have read : scan ⟨before ++ rest, subtractsBehind none, false⟩ = _ :=
    readsUpTo before rest readable stops none false (by simp)
  rw [ofString, eq]
  exact read

/-- **The tokens of a text are its runs.** A text that does not offend is accepted, with one token
for each run that is not blank. In another one the tokens of the runs before the first offence are
read, then the failure that names the rest of the text, and then nothing any more. -/
theorem items_until_offence (s : String) :
    (IsReadable s.toList →
      Expression.tokens s = .ok (tokensBehind none s.toList)) ∧
    ∀ i, IsLeast {i | Offends s.toList i} i →
      Expression.tokens s = .error (.unreadable (String.ofList (s.toList.drop i))) ∧
      ∀ n, (ofString s).item n =
        ((tokensBehind none (s.toList.take i)).map .ok ++
          [.error (.unreadable (String.ofList (s.toList.drop i)))])[n]? := by
  constructor
  · intro readable
    rw [Expression.tokens, scan_ofString (List.append_nil _).symm readable (by simp [StopsBehind])]
    rfl
  · intro i h
    obtain ⟨readable, stops, more⟩ := isReadable_take h
    have read := scan_ofString (List.take_append_drop i s.toList).symm readable stops
    rw [failureAt, if_neg more] at read
    refine ⟨by rw [Expression.tokens, read], ?_⟩
    intro n
    rw [item_eq_getElem?, read]
    rfl

/-- The second point of a run offends, unless a blank divides the numbers. -/
theorem items_until_offence_second_point :
    Expression.tokens "1.2 .3-x" =
        .ok [.number "1.2", .number ".3", .operator (.binary .minus), .unknown "x"] ∧
      ∀ n, (ofString "-1.2.3").item n =
        [.ok (.operator .negation), .ok (.number "1.2"), .error (.unreadable ".3")][n]? := by
  have apart := (items_until_offence "1.2 .3-x").1 (by decide +kernel)
  have glued := ((items_until_offence "-1.2.3").2 4 (by decide +kernel)).2
  refine ⟨apart.trans (by decide +kernel), ?_⟩
  intro n
  exact (glued n).trans (congrArg (·[n]?) (by decide +kernel))

end Lexer

end DeskCalculator
