import DeskCalculator.Proofs.Evaluation.Written
import DeskCalculator.Proofs.Machine.Tree
import DeskCalculator.Proofs.Postfix.Phrase

/-!
# The value of a phrase

Evaluating a text that spells a phrase gives the value of the phrase, computed along its derivation
tree: nothing is lost between the text, its tokens, the postfix form and the stack.

## Main definitions

* `Phrase.value`: the value of a phrase

## Main results

* `Phrase.outcome_run_postorder`: the machine stacks the value of a phrase
* `Phrase.evaluate_of_spells`: the postfix form and the value of every text that spells a phrase
-/

namespace DeskCalculator

namespace Phrase

variable {level : Level}

/-- The value of a phrase: operations take the values of the phrases below them, the left one
first. -/
def value {level : Level} : Phrase level → Float
  | numeral n => n.value
  | pi => Number.circleRatio
  | bracketed inner => inner.value
  | factorial operand => Operator.factorial.operation.applyTo [operand.value]
  | negated operand => Operator.negation.operation.applyTo [operand.value]
  | call f _ argument => f.operation.applyTo [argument.value]
  | log base argument => NamedFunction.log.operation.applyTo [base.value, argument.value]
  | binary sign left right =>
    (Operator.binary sign).operation.applyTo [left.value, right.value]
  | tight _ p => p.value

theorem arity_of_ne_log {f : NamedFunction} (h : f ≠ .log) : f.operation.arity = 1 := by
  cases f <;> first | rfl | exact absurd rfl h

open Machine in
/-- An operator behind the tokens of its operands. -/
theorem outcome_run_operator {ts : List Token} {o : Operator} {stack : List Float}
    (args : List Float)
    (operands : (run stack ts).outcome = .ok (args.reverse ++ stack))
    (size : args.length = o.operation.arity) :
    (run stack (ts ++ [.operator o])).outcome = .ok (o.operation.applyTo args :: stack) := by
  rw [outcome_run_append, operands, Except.bind_ok, outcome_run_singleton]
  exact outcome_step_of_operands rfl size stack

open Machine in
/-- **The machine stacks the value of a phrase.** -/
theorem outcome_run_postorder (p : Phrase level) (stack : List Float) :
    (run stack p.postorder).outcome = .ok (p.value :: stack) := by
  induction p generalizing stack with
  | numeral n =>
    rw [postorder, outcome_run_singleton]
    exact outcome_step_of_value n.readFloat?_text stack
  | pi => rfl
  | bracketed inner ih => exact ih stack
  | factorial operand ih => exact outcome_run_operator [operand.value] (ih stack) rfl
  | negated operand ih => exact outcome_run_operator [operand.value] (ih stack) rfl
  | call f unary argument ih =>
    exact outcome_run_operator [argument.value] (ih stack) (arity_of_ne_log unary).symm
  | log base argument ih_base ih_argument =>
    have both : (run stack (base.postorder ++ argument.postorder)).outcome =
        .ok ([base.value, argument.value].reverse ++ stack) := by
      rw [outcome_run_append, ih_base, Except.bind_ok, ih_argument]
      rfl
    exact outcome_run_operator _ both rfl
  | binary sign left right ih_left ih_right =>
    have both : (run stack (left.postorder ++ right.postorder)).outcome =
        .ok ([left.value, right.value].reverse ++ stack) := by
      rw [outcome_run_append, ih_left, Except.bind_ok, ih_right]
      rfl
    exact outcome_run_operator _ both rfl
  | tight loose p ih => exact ih stack

/-- **Reading and evaluating preserve meaning.** A text that spells a phrase has the tokens of the
phrase in postfix order as its postfix form, and the value of the phrase as its value, under any
settings. Blanks are free, except that two words that are neighbours must be divided; two numbers
never are neighbours in a phrase. -/
theorem evaluate_of_spells (p : Phrase .sum) {s : String} (h : Spells p.tokens s.toList)
    (r : Settings) :
    Postfix.ofExpression s r = .ok p.postorder ∧
      ∃ w, (Expression.evaluate s r).outcome = .ok (p.value, w) ∧
        w.tokens = Token.listText p.tokens ∧ w.polish = Token.listText p.postorder := by
  have form := p.ofExpression_of_spells h r
  have value : (Postfix.evaluate p.postorder r).outcome = .ok p.value := by
    rw [Postfix.outcome_evaluate, outcome_run_postorder, Except.bind_ok]
    simp [Machine.result]
  refine ⟨form, _, Expression.outcome_evaluate_eq_ok_iff.mpr
    ⟨_, form, p.postorder_ne_nil, value, rfl⟩, ?_, rfl⟩
  rw [p.scan_of_spells h]

/-- The power of a negation and a factorial, `-2 ^3!`, is read as `(-2) ^ (3!)`. -/
theorem evaluate_of_spells_negated_power :
    ∃ p : Phrase .sum, Spells p.tokens "-2 ^3!".toList ∧
      p.postorder = [.number "2", .operator .negation, .number "3", .operator .factorial,
        .operator (.binary .power)] ∧
      Postfix.ofExpression "-2 ^3!" .strict = .ok p.postorder ∧
      ∃ w, (Expression.evaluate "-2 ^3!" .strict).outcome = .ok (p.value, w) := by
  let two : Number.Numeral :=
    ⟨"2", List.all_eq_true.mp (by decide), by decide, List.any_eq_true.mp (by decide)⟩
  let three : Number.Numeral :=
    ⟨"3", List.all_eq_true.mp (by decide), by decide, List.any_eq_true.mp (by decide)⟩
  let base : Phrase .power := .tight nofun (negated (.tight nofun (numeral two)))
  let exponent : Phrase .prefixed := .tight nofun (factorial (numeral three))
  let power : Phrase .product := .tight nofun (binary .power base exponent)
  let p : Phrase .sum := .tight nofun power
  have spelled : Spells p.tokens "-2 ^3!".toList := by
    have text : "-2 ^3!".toList = [] ++ ("-".toList ++ ([] ++ ("2".toList ++ ([' '] ++
        ("^".toList ++ ([] ++ ("3".toList ++ ([] ++ ("!".toList ++ []))))))))) := by decide
    have apart {t u : Token} (h : t.kind ≠ u.kind) (s : List Char) :
        ∀ v ∈ [u].head?, t.Merges v → ∃ c ∈ s.head?, Text.isBlank c = true := by
      simp [Token.Merges, h]
    rw [text]
    exact .cons (by simp) (apart (by decide) _) <| .cons (by simp) (apart (by decide) _) <|
      .cons (List.all_eq_true.mp rfl) (apart (by decide) _) <|
      .cons (by simp) (apart (by decide) _) <| .cons (by simp) (by simp) <| .nil (by simp)
  obtain ⟨form, w, value, -⟩ := p.evaluate_of_spells spelled .strict
  exact ⟨p, spelled, rfl, form, w, value⟩

end Phrase

end DeskCalculator
