import DeskCalculator.Proofs.Postfix.Steps

/-!
# Moves of a conversion

Whatever the token is, a step moves operators from the front of the queue to the output, never past
a bracket, and then adds the token or takes away the bracket that it closes. What a step keeps is
read off from this, one case for each kind of token, and what a run keeps by induction on its moves.

## Main definitions

* `Token.isOperand`: the tokens that go to the output at once
* `Conversion.Releases`: operators in front of the queue have gone to the output
* `Conversion.Moves`: what a token does to a conversion
* `Conversion.Path`: the moves of a run

## Main results

* `Conversion.moves_of_step`: every step that succeeds is a move
* `Conversion.path_of_steps`: every run that succeeds is made of moves
* `Conversion.step_eq_error_iff`: the two ways in which a step fails
* `Conversion.Path.count_bracket`: as many brackets wait as are open
-/

namespace DeskCalculator

/-- Whether a token is an operand: a literal or the constant. -/
def Token.isOperand : Token → Bool
  | number _ | pi => true
  | operator _ | unknown _ _ | opening | closing | comma => false

namespace Conversion

variable {c d : Conversion} {t : Token} {ts : List Token}

/-! ## Released operators -/

/-- Operators that waited in front have gone to the output, in their order. -/
def Releases (c d : Conversion) : Prop :=
  ∃ released : List Operator, c.waiting = released.map .operator ++ d.waiting ∧
    d.output = c.output ++ released.map Token.operator

theorem exists_map_operator {ws : List Waiting} (h : .bracket ∉ ws) :
    ∃ os : List Operator, ws = os.map .operator := by
  induction ws with
  | nil => exact ⟨[], rfl⟩
  | cons w ws ih =>
    obtain ⟨os, rfl⟩ := ih fun later => h (List.mem_cons_of_mem _ later)
    cases w with
    | bracket => exact absurd List.mem_cons_self h
    | operator o => exact ⟨o :: os, rfl⟩

/-- A flush that stops at a bracket releases operators only. -/
theorem releases_flushWhile (c : Conversion) {p : Waiting → Bool} (stop : p .bracket = false) :
    c.Releases (c.flushWhile p) := by
  have free : .bracket ∉ c.waiting.takeWhile p := by
    intro taken
    exact Bool.false_ne_true (stop.symm.trans (List.all_eq_true.mp List.all_takeWhile _ taken))
  obtain ⟨os, eq⟩ := exists_map_operator free
  refine ⟨os, ?_, ?_⟩
  · rw [← eq]
    exact List.takeWhile_append_dropWhile.symm
  · rw [flushWhile, eq, List.map_map]
    rfl

namespace Releases

theorem refl (c : Conversion) : c.Releases c :=
  ⟨[], rfl, by simp⟩

theorem tokens_eq (h : c.Releases d) : d.tokens = c.tokens := by
  obtain ⟨released, waiting, output⟩ := h
  simp only [tokens, waiting, output, Array.toList_appendList, List.map_append, List.map_map,
    List.append_assoc]
  rfl

theorem count_bracket (h : c.Releases d) :
    d.waiting.count .bracket = c.waiting.count .bracket := by
  obtain ⟨released, waiting, -⟩ := h
  have none : (released.map Waiting.operator).count .bracket = 0 := by
    rw [List.count_eq_zero]
    simp
  rw [waiting, List.count_append, none, Nat.zero_add]

end Releases

/-! ## One step -/

/-- What a token does to a conversion: operands are put out, an operator and an opening bracket
wait, a comma is dropped, and a closing bracket removes the latest opening one, which by then is in
front. -/
inductive Moves (c : Conversion) : Token → Conversion → Prop
  | operand {t : Token} (operand : t.isOperand = true) : Moves c t (c.emit t)
  | opening : Moves c .opening (c.push .bracket)
  | operator {d : Conversion} (o : Operator) (released : c.Releases d) :
    Moves c (.operator o) (d.push (.operator o))
  | comma {d : Conversion} (released : c.Releases d) : Moves c .comma d
  | closing {d : Conversion} (released : c.Releases (d.push .bracket)) : Moves c .closing d

/-- A closing bracket fails if no bracket waits, and otherwise finds the latest one in front of what
is left after the flush. -/
theorem closeGroup_cases (c : Conversion) :
    (.bracket ∉ c.waiting ∧ c.closeGroup = .error .unopenedBracket) ∨
      .bracket ∈ c.waiting ∧
        ∃ d : Conversion, c.closeGroup = .ok d ∧ c.Releases (d.push .bracket) := by
  have released : c.Releases c.flushGroup := releases_flushWhile c rfl
  cases left : c.flushGroup.waiting with
  | nil =>
    refine .inl ⟨?_, by simp [closeGroup, left]⟩
    rw [← List.count_eq_zero, ← released.count_bracket, left]
    rfl
  | cons w waiting =>
    obtain rfl : w = .bracket := by
      have stopped := List.head?_dropWhile_not (· != Waiting.bracket) c.waiting
      rw [show c.waiting.dropWhile (· != Waiting.bracket) = w :: waiting from left] at stopped
      simpa using stopped
    refine .inr ⟨?_, ⟨waiting, c.flushGroup.output⟩, by simp [closeGroup, left], ?_⟩
    · rw [← List.count_pos_iff, ← released.count_bracket, left]
      simp
    · rw [push, ← left]
      exact released

/-- Every step that succeeds is a move. -/
theorem moves_of_step (h : c.step t = .ok d) : c.Moves t d := by
  cases t with
  | number literal | pi =>
    obtain rfl := Except.ok.inj h
    exact .operand rfl
  | opening =>
    obtain rfl := Except.ok.inj h
    exact .opening
  | closing =>
    rcases closeGroup_cases c with ⟨-, failed⟩ | ⟨-, e, closed, released⟩
    · exact absurd (failed.symm.trans h) (by simp)
    · obtain rfl := Except.ok.inj (closed.symm.trans h)
      exact .closing released
  | comma =>
    obtain rfl := Except.ok.inj h
    exact .comma (releases_flushWhile c rfl)
  | operator o =>
    obtain rfl := Except.ok.inj h
    refine .operator o ?_
    split
    · exact .refl c
    · exact releases_flushWhile c (priority_le_bracket o)
  | unknown word => exact absurd h (by simp [step])

/-- A step fails for a word that names nothing, and for a closing bracket when none waits. -/
theorem step_eq_error_iff {e : Failure} :
    c.step t = .error e ↔ (∃ word nameless, t = .unknown word nameless ∧ e = .unknownSymbol word) ∨
      t = .closing ∧ .bracket ∉ c.waiting ∧ e = .unopenedBracket := by
  cases t with
  | unknown word nameless =>
    constructor
    · intro failed
      exact .inl ⟨word, nameless, rfl, (Except.error.inj failed).symm⟩
    · rintro (⟨_, _, same, rfl⟩ | ⟨same, -⟩) <;> cases same
      rfl
  | closing =>
    show c.closeGroup = .error e ↔ _
    rcases closeGroup_cases c with ⟨none, failed⟩ | ⟨some, d, closed, -⟩
    · simp [failed, none, eq_comm]
    · simp [closed, some]
  | _ => simp [step]

/-! ## Runs -/

/-- The moves of a run, one for each token that is read. -/
inductive Path : Conversion → List Token → Conversion → Prop
  | nil {c : Conversion} : Path c [] c
  | cons {c b d : Conversion} {t : Token} {ts : List Token} (move : c.Moves t b)
    (rest : Path b ts d) : Path c (t :: ts) d

theorem path_of_steps (h : c.steps ts = .ok d) : c.Path ts d := by
  induction ts generalizing c with
  | nil =>
    obtain rfl := Except.ok.inj h
    exact .nil
  | cons t ts ih =>
    obtain ⟨b, first, others⟩ := steps_cons_eq_ok_iff.mp h
    exact .cons (moves_of_step first) (ih others)

/-- A run fails where a step fails. -/
theorem exists_step_of_steps_eq_error {e : Failure} (h : c.steps ts = .error e) :
    ∃ d t, t ∈ ts ∧ step d t = .error e := by
  induction ts generalizing c with
  | nil => cases h
  | cons t ts ih =>
    rw [steps_cons] at h
    cases first : c.step t with
    | error f =>
      rw [first] at h
      exact ⟨c, t, List.mem_cons_self, first.trans h⟩
    | ok b =>
      rw [first] at h
      obtain ⟨d, u, mem, failed⟩ := ih h
      exact ⟨d, u, List.mem_cons_of_mem _ mem, failed⟩

/-! ## Brackets -/

theorem Moves.count_bracket (h : c.Moves t d) :
    d.waiting.count .bracket + [t].count .closing =
      c.waiting.count .bracket + [t].count .opening := by
  cases h with
  | operand operand =>
    have neither : t ≠ .opening ∧ t ≠ .closing := by
      constructor <;> rintro rfl <;> cases operand
    simp [emit, neither]
  | opening => simp [push]
  | operator o released => simp [push, released.count_bracket]
  | comma released => simp [released.count_bracket]
  | closing released =>
    have count := released.count_bracket
    simp only [push, List.count_cons_self] at count
    simpa using count

/-- **As many brackets wait as are open.** -/
theorem Path.count_bracket (h : c.Path ts d) :
    d.waiting.count .bracket + ts.count .closing =
      c.waiting.count .bracket + ts.count .opening := by
  induction h with
  | nil => simp
  | @cons c b d t ts move rest ih =>
    have step := move.count_bracket
    rw [← List.singleton_append, List.count_append, List.count_append]
    omega

end Conversion

end DeskCalculator
