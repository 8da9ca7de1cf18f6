import DeskCalculator.Proofs.Evaluation.Written
import DeskCalculator.Proofs.Machine.Tree
import DeskCalculator.Proofs.Postfix.Conservation
import DeskCalculator.Proofs.Postfix.Fault

/-!
# The strict rules

Each of the two rules refuses some expressions, with a failure of its own, and changes nothing else.
An expression that the rule for brackets refuses has no value without the rule either, because the
bracket that is left over stands for no operation. The rule for the stack is the last thing that is
looked at.

## Main definitions

* `Expression.outcomeUnder`: the outcome of an expression under the two rules
* `RefusesLeftovers`: what the rule for the stack does to an outcome

## Main results

* `Postfix.failure_cases_ofExpression`, `Postfix.failure_cases_evaluate`: why the two parts of an
  evaluation fail
* `Machine.step_cases`: what a token does to the stack
* `Postfix.ofExpression_strict`: the rule for brackets refuses the forms that hold one
* `Postfix.refusesLeftovers_evaluate`: the rule for the stack, for a postfix form
* `Expression.evaluate_under_rules`: both rules, for an expression
-/

namespace DeskCalculator

/-! ## The rule for brackets -/

namespace Conversion

variable {c d : Conversion} {ts : List Token}

theorem Path.unknown_not_mem (h : c.Path ts d) (word : String)
    (nameless : Token.IsNameless word) : .unknown word nameless ∉ ts := by
  induction h with
  | nil => exact List.not_mem_nil
  | cons move rest ih =>
    rintro (_ | ⟨_, later⟩)
    · cases move with
      | operand operand => cases operand
    · exact ih later

end Conversion

namespace Postfix

variable {expression : String} {s : Settings} {ts : Postfix} {t : Token}

/-- The rule for brackets refuses the forms that hold one, and changes no form. -/
theorem ofExpression_strict {r : Settings} (strict : s.strictBrackets = true)
    (loose : r.strictBrackets = false) :
    ofExpression expression s = ofExpression expression r >>= fun ts =>
      if .opening ∈ ts then .error .unclosedBracket else .ok ts := by
  simp only [ofExpression, strict, loose]
  cases run : Conversion.steps {} (Lexer.ofString expression).scan.tokens with
  | error e => rfl
  | ok c =>
    cases (Lexer.ofString expression).scan.failure with
    | some e => rfl
    | none => simp [Conversion.finish_eq, Conversion.opening_mem_tokens_iff run]

/-- An expression is not converted for three causes: a token at fault, a rest that cannot be read,
and, under the rule, a bracket that is never closed. -/
theorem failure_cases_ofExpression {e : Failure} (h : ofExpression expression s = .error e) :
    ((∃ word, e = .unknownSymbol word) ∨ e = .unopenedBracket) ∨ (∃ rest, e = .unreadable rest) ∨
      s.strictBrackets = true ∧ e = .unclosedBracket := by
  rw [ofExpression] at h
  cases run : Conversion.steps {} (Lexer.ofString expression).scan.tokens with
  | error f =>
    rw [run] at h
    obtain rfl := Except.error.inj h
    obtain ⟨c, t, -, failed⟩ := Conversion.exists_step_of_steps_eq_error run
    rcases Conversion.step_eq_error_iff.mp failed with ⟨word, _, -, rfl⟩ | ⟨-, -, rfl⟩
    · exact .inl (.inl ⟨word, rfl⟩)
    · exact .inl (.inr rfl)
  | ok c =>
    rw [run, Except.bind_ok] at h
    cases failure : (Lexer.ofString expression).scan.failure with
    | some f =>
      rw [failure] at h
      obtain rfl := Except.error.inj h
      exact .inr (.inl (Lexer.exists_unreadable_of_scan failure))
    | none =>
      simp only [failure, Conversion.finish_eq] at h
      split at h
      · next open_bracket => exact .inr (.inr ⟨open_bracket.1, (Except.error.inj h).symm⟩)
      · cases h

theorem ne_unclosedBracket_of_ofExpression {e : Failure} (loose : s.strictBrackets = false)
    (h : ofExpression expression s = .error e) : e ≠ .unclosedBracket := by
  rcases failure_cases_ofExpression h with (⟨word, rfl⟩ | rfl) | ⟨rest, rfl⟩ | ⟨strict, -⟩
  · simp
  · simp
  · simp
  · rw [loose] at strict
    cases strict

/-- A postfix form holds operands, operators, and opening brackets that are left over. -/
theorem cases_of_mem_ofExpression (h : ofExpression expression s = .ok ts) (mem : t ∈ ts) :
    t = .opening ∨ t.isOperand = true ∨ ∃ o, t = .operator o := by
  obtain ⟨-, c, run, -, rfl⟩ := ofExpression_eq_ok_iff.mp h
  obtain ⟨read, closes, divides⟩ :=
    Token.mem_unpaired ((Conversion.perm_unpaired_of_steps run).mem_iff.mp mem)
  cases t with
  | number literal | pi => exact .inr (.inl rfl)
  | operator o => exact .inr (.inr ⟨o, rfl⟩)
  | unknown word => exact absurd read ((Conversion.path_of_steps run).unknown_not_mem word _)
  | opening => exact .inl rfl
  | closing => exact absurd rfl closes
  | comma => exact absurd rfl divides

end Postfix

namespace Machine

variable {stack : List Float} {t : Token} {ts : List Token} {e : Failure}

/-- The failures of operands and operators: a number has no value, or an operation misses
operands. -/
def IsOperandFailure (e : Failure) : Prop :=
  (∃ literal, e = .badNumber literal) ∨
    ∃ operation size needed, e = .missingOperands operation size needed

/-- A token puts a value on top of the stack, or fails: as an operand or an operator, or because it
stands for no operation. -/
theorem step_cases (stack : List Float) (t : Token) :
    (∃ value below, (step stack t).outcome = .ok (value :: below)) ∨
      (∃ e, (step stack t).outcome = .error e ∧ IsOperandFailure e) ∨
      (step stack t).outcome = .error (.unknownSymbol t.text) ∧ t.isOperand = false ∧
        ∀ o, t ≠ .operator o := by
  cases stands : t.operation with
  | ok op =>
    cases applied : op.applyToStack stack with
    | some found =>
      exact .inl ⟨found.1, found.2, by rw [outcome_step_of_operation stands, applied]⟩
    | none =>
      refine .inr (.inl ⟨_, ?_, .inr ⟨t.text, stack.length, op.arity, rfl⟩⟩)
      rw [outcome_step_of_operation stands, applied]
  | error _ =>
    -- a number stands for no operation either, but is read before one is looked for
    cases t with
    | number literal =>
      cases value : Number.readFloat? literal with
      | some x => exact .inl ⟨x, stack, outcome_step_of_value value stack⟩
      | none => exact .inr (.inl ⟨_, by simp [step, value], .inl ⟨literal, rfl⟩⟩)
    | pi | operator o => cases stands
    | unknown word | opening | closing | comma => exact .inr (.inr ⟨rfl, rfl, by simp⟩)

theorem isOperandFailure_of_step (known : t.isOperand = true ∨ ∃ o, t = .operator o)
    (h : (step stack t).outcome = .error e) : IsOperandFailure e := by
  rcases step_cases stack t with ⟨v, below, value⟩ | ⟨f, failed, operand⟩ | ⟨-, other, no_operator⟩
  · cases value.symm.trans h
  · obtain rfl := Except.error.inj (failed.symm.trans h)
    exact operand
  · rcases known with operand | ⟨o, rfl⟩
    · exact absurd operand (by simp [other])
    · exact absurd rfl (no_operator o)

/-- A run fails where a step fails. -/
theorem exists_step_of_run_eq_error (h : (run stack ts).outcome = .error e) :
    ∃ below t, t ∈ ts ∧ (step below t).outcome = .error e := by
  induction ts generalizing stack with
  | nil => cases h
  | cons t ts ih =>
    rw [outcome_run_cons] at h
    cases first : (step stack t).outcome with
    | error f =>
      rw [first] at h
      exact ⟨stack, t, List.mem_cons_self, first.trans h⟩
    | ok below =>
      rw [first] at h
      obtain ⟨stack, u, mem, failed⟩ := ih h
      exact ⟨stack, u, List.mem_cons_of_mem _ mem, failed⟩

theorem isOperandFailure_of_run (known : ∀ t ∈ ts, t.isOperand = true ∨ ∃ o, t = .operator o)
    (h : (run stack ts).outcome = .error e) : IsOperandFailure e := by
  obtain ⟨below, t, mem, failed⟩ := exists_step_of_run_eq_error h
  exact isOperandFailure_of_step (known t mem) failed

end Machine

namespace Postfix

variable {expression : String} {s : Settings} {before after : List Token}

open Machine

/-- What stands before the first bracket decides whether the bracket is reached. -/
theorem outcome_evaluate_opening (before after : List Token) (s : Settings) :
    (evaluate (before ++ .opening :: after) s).outcome =
      (run [] before).outcome >>= fun _ => .error (.unknownSymbol Token.opening.text) := by
  rw [outcome_evaluate, outcome_run_append]
  cases (run [] before).outcome with
  | error e => rfl
  | ok stack =>
    rw [Except.bind_ok, outcome_run_cons]
    rfl

theorem outcome_evaluate_nil (s : Settings) : (evaluate [] s).outcome = .error .noExpression :=
  (outcome_evaluate_listTokens [] s).trans (by simp)

/-- An evaluation fails with a token, or at the end because of the stack: too many values are left,
or none. -/
theorem failure_cases_evaluate {ts : Postfix} {e : Failure}
    (h : (evaluate ts s).outcome = .error e) :
    (run [] ts).outcome = .error e ∨ (∃ count, e = .leftoverValues count) ∨
      (run [] ts).outcome = .ok [] ∧ e = .noExpression := by
  rw [outcome_evaluate] at h
  cases final : (run [] ts).outcome with
  | error f =>
    rw [final] at h
    obtain rfl := Except.error.inj h
    exact .inl rfl
  | ok stack =>
    simp only [final, Except.bind_ok, result] at h
    split at h
    · exact .inr (.inl ⟨_, (Except.error.inj h).symm⟩)
    · split at h
      · exact .inr (.inr ⟨rfl, (Except.error.inj h).symm⟩)
      · cases h

theorem ne_unclosedBracket_of_evaluate {ts : Postfix} {e : Failure}
    (known : ∀ t ∈ ts, t.isOperand = true ∨ ∃ o, t = .operator o)
    (h : (evaluate ts s).outcome = .error e) : e ≠ .unclosedBracket := by
  rcases failure_cases_evaluate h with failed | ⟨count, rfl⟩ | ⟨-, rfl⟩
  · rcases isOperandFailure_of_run known failed with ⟨_, rfl⟩ | ⟨_, _, _, rfl⟩ <;> simp
  · simp
  · simp

end Postfix

/-! ## The rule for the stack -/

section Leftovers

variable {α β : Type} {loose tight : Except Failure α}

/-- What the rule for the stack does to an outcome: nothing, or it refuses a value because there are
others, at least two in all. -/
def RefusesLeftovers (loose tight : Except Failure α) : Prop :=
  tight = loose ∨ (∃ a, loose = .ok a) ∧ ∃ n, 2 ≤ n ∧ tight = .error (.leftoverValues n)

namespace RefusesLeftovers

theorem map (h : RefusesLeftovers loose tight) (f : α → β) :
    RefusesLeftovers (loose.map f) (tight.map f) := by
  rcases h with rfl | ⟨⟨a, rfl⟩, n, two, rfl⟩
  · exact .inl rfl
  · exact .inr ⟨⟨f a, rfl⟩, n, two, rfl⟩

theorem bind (x : Except Failure β) {f g : β → Except Failure α}
    (h : ∀ b, RefusesLeftovers (f b) (g b)) : RefusesLeftovers (x >>= f) (x >>= g) := by
  cases x with
  | error e => exact .inl rfl
  | ok b => exact h b

/-- A value under the rule is a value without it. -/
theorem ok_of_ok (h : RefusesLeftovers loose tight) {a : α} (value : tight = .ok a) :
    loose = .ok a := by
  rcases h with rfl | ⟨-, n, -, rfl⟩
  · exact value
  · cases value

end RefusesLeftovers

/-- The rule looks at the stack only when all tokens have been executed. -/
theorem Machine.refusesLeftovers_result (stack : List Float) :
    RefusesLeftovers (result stack false) (result stack true) := by
  by_cases more : 1 < stack.length
  · obtain ⟨value, below, rfl⟩ := List.exists_cons_of_length_pos (Nat.zero_lt_of_lt more)
    refine .inr ⟨⟨value, rfl⟩, _, more, ?_⟩
    rw [result, decide_eq_true more]
    rfl
  · exact .inl (by simp [result, more])

theorem Postfix.refusesLeftovers_evaluate (ts : Postfix) {s r : Settings}
    (strict : s.strictStack = true) (rule : r.strictStack = false) :
    RefusesLeftovers (evaluate ts r).outcome (evaluate ts s).outcome := by
  rw [outcome_evaluate, outcome_evaluate, strict, rule]
  exact .bind _ Machine.refusesLeftovers_result

/-- A value that a form has under any settings it has without the rule for the stack. -/
theorem Postfix.outcome_evaluate_of_ok {ts : Postfix} {s r : Settings} {v : Float}
    (value : (evaluate ts s).outcome = .ok v) (rule : r.strictStack = false) :
    (evaluate ts r).outcome = .ok v := by
  cases strict : s.strictStack with
  | true => exact (refusesLeftovers_evaluate ts strict rule).ok_of_ok value
  | false =>
    rw [outcome_evaluate, rule]
    rwa [outcome_evaluate, strict] at value

end Leftovers

/-! ## Both rules -/

namespace Expression

/-- The working of an expression that has the postfix form `ts`. -/
def working (expression : String) (ts : Postfix) : Working where
  tokens := Token.listText (Lexer.ofString expression).scan.tokens
  polish := Token.listText ts
  note := "Pipeline: jetons → RPN (shunting-yard) → pile → résultat."

/-- The outcome of an expression is that of its postfix form, if it has one. -/
theorem outcome_evaluate (expression : String) (s : Settings) :
    (evaluate expression s).outcome = Postfix.ofExpression expression s >>= fun ts =>
      (Postfix.evaluate ts s).outcome.map fun v => (v, working expression ts) := by
  cases form : Postfix.ofExpression expression s with
  | error e => simp [evaluate, toPostfix, form]
  | ok ts =>
    by_cases none : ts = []
    · subst none
      simp [evaluate, toPostfix, form, Postfix.outcome_evaluate_nil, Except.map]
    · cases value : (Postfix.evaluate ts s).outcome with
      | error e => simp [evaluate, toPostfix, form, none, value, Except.map]
      | ok v =>
        simp [evaluate, toPostfix, form, none, value, tokens_of_ofExpression form, Except.map,
          working]

section Numbers

variable {expression a b : String} {s : Settings} {x y : Float}

/-- Numbers side by side are in postfix form. -/
theorem ofExpression_numbers
    (read : (Lexer.ofString expression).scan = ⟨[.number a, .number b], none⟩) (s : Settings) :
    Postfix.ofExpression expression s = .ok [.number a, .number b] := by
  refine Postfix.ofExpression_eq_ok_iff.mpr ⟨by rw [read], ⟨[], #[.number a, .number b]⟩, ?_⟩
  rw [read]
  exact ⟨rfl, by simp, rfl⟩

theorem outcome_run_numbers (first : Number.readFloat? a = some x)
    (second : Number.readFloat? b = some y) :
    (Machine.run [] [.number a, .number b]).outcome = .ok [y, x] := by
  rw [Machine.outcome_run_cons, Machine.outcome_step_of_value first, Except.bind_ok,
    Machine.outcome_run_singleton, Machine.outcome_step_of_value second]

/-- Numbers side by side have the value of the last one, where values may be left over. -/
theorem outcome_evaluate_numbers
    (read : (Lexer.ofString expression).scan = ⟨[.number a, .number b], none⟩)
    (first : Number.readFloat? a = some x) (second : Number.readFloat? b = some y)
    (loose : s.strictStack = false) :
    (evaluate expression s).outcome =
      .ok (y, working expression [.number a, .number b]) := by
  rw [outcome_evaluate, ofExpression_numbers read, Except.bind_ok, Postfix.outcome_evaluate,
    outcome_run_numbers first second, loose]
  rfl

/-- Numbers side by side have no value where a single one is required. -/
theorem outcome_evaluate_numbers_of_strict
    (read : (Lexer.ofString expression).scan = ⟨[.number a, .number b], none⟩)
    (first : Number.readFloat? a = some x) (second : Number.readFloat? b = some y)
    (strict : s.strictStack = true) :
    (evaluate expression s).outcome = .error (.leftoverValues 2) := by
  rw [outcome_evaluate, ofExpression_numbers read, Except.bind_ok, Postfix.outcome_evaluate,
    outcome_run_numbers first second, strict]
  rfl

end Numbers

/-- The outcome of an expression under the two rules. -/
def outcomeUnder (expression : String) (digits : Nat) (strictBrackets strictStack : Bool) :
    Except Failure (Float × Working) :=
  (evaluate expression ⟨strictBrackets, strictStack, digits⟩).outcome

variable {expression : String} {digits : Nat} {strictStack : Bool} {ts : Postfix}

/-- Without a bracket in it, a form has the same outcome under the rule for brackets. -/
theorem outcomeUnder_of_not_mem
    (form : Postfix.ofExpression expression ⟨false, strictStack, digits⟩ = .ok ts)
    (none : .opening ∉ ts) :
    outcomeUnder expression digits true strictStack =
        outcomeUnder expression digits false strictStack ∧
      outcomeUnder expression digits true strictStack ≠ .error .unclosedBracket := by
  have strict : Postfix.ofExpression expression ⟨true, strictStack, digits⟩ = .ok ts := by
    rw [Postfix.ofExpression_strict (r := ⟨false, strictStack, digits⟩) rfl rfl, form,
      Except.bind_ok, if_neg none]
  have known : ∀ t ∈ ts, t.isOperand = true ∨ ∃ o, t = .operator o := by
    intro t mem
    refine (Postfix.cases_of_mem_ofExpression form mem).resolve_left ?_
    rintro rfl
    exact none mem
  rw [outcomeUnder, outcomeUnder, outcome_evaluate, outcome_evaluate, strict, form,
    Except.bind_ok, Except.bind_ok, Postfix.outcome_evaluate, Postfix.outcome_evaluate]
  refine ⟨rfl, ?_⟩
  rw [← Postfix.outcome_evaluate ts ⟨true, strictStack, digits⟩]
  cases value : (Postfix.evaluate ts ⟨true, strictStack, digits⟩).outcome with
  | ok v => simp [Except.map]
  | error e =>
    rintro failed
    exact Postfix.ne_unclosedBracket_of_evaluate known value (Except.error.inj failed)

/-- With a bracket in it, a form is refused by the rule for brackets, and has no value without
it. -/
theorem outcomeUnder_of_mem
    (form : Postfix.ofExpression expression ⟨false, strictStack, digits⟩ = .ok ts)
    (mem : .opening ∈ ts) :
    outcomeUnder expression digits true strictStack = .error .unclosedBracket ∧
      ∃ before after, ts = before ++ .opening :: after ∧ .opening ∉ before ∧
        ((∃ stack, (Machine.run [] before).outcome = .ok stack) ∧
            outcomeUnder expression digits false strictStack = .error (.unknownSymbol "(") ∨
          ∃ e, (Machine.run [] before).outcome = .error e ∧ Machine.IsOperandFailure e ∧
            outcomeUnder expression digits false strictStack = .error e) := by
  constructor
  · rw [outcomeUnder, outcome_evaluate,
      Postfix.ofExpression_strict (r := ⟨false, strictStack, digits⟩) rfl rfl, form,
      Except.bind_ok, if_pos mem]
    rfl
  · obtain ⟨before, after, rfl, first⟩ := List.eq_append_cons_of_mem mem
    refine ⟨before, after, rfl, first, ?_⟩
    have known : ∀ t ∈ before, t.isOperand = true ∨ ∃ o, t = .operator o := by
      intro t ht
      refine (Postfix.cases_of_mem_ofExpression form (by simp [ht])).resolve_left ?_
      rintro rfl
      exact first ht
    rw [outcomeUnder, outcome_evaluate, form, Except.bind_ok, Postfix.outcome_evaluate_opening]
    cases reached : (Machine.run [] before).outcome with
    | ok stack => exact .inl ⟨⟨stack, rfl⟩, rfl⟩
    | error e => exact .inr ⟨e, rfl, Machine.isOperandFailure_of_run known reached, rfl⟩

/-- The rule for brackets changes nothing, or refuses a form that holds a bracket. -/
theorem outcomeUnder_cases (expression : String) (digits : Nat) (strictStack : Bool) :
    (outcomeUnder expression digits true strictStack =
        outcomeUnder expression digits false strictStack ∧
      outcomeUnder expression digits true strictStack ≠ .error .unclosedBracket) ∨
    ∃ ts, Postfix.ofExpression expression ⟨false, strictStack, digits⟩ = .ok ts ∧
      .opening ∈ ts := by
  cases form : Postfix.ofExpression expression ⟨false, strictStack, digits⟩ with
  | error e =>
    left
    rw [outcomeUnder, outcomeUnder, outcome_evaluate, outcome_evaluate,
      Postfix.ofExpression_strict (r := ⟨false, strictStack, digits⟩) rfl rfl, form]
    refine ⟨rfl, fun refused => ?_⟩
    exact Postfix.ne_unclosedBracket_of_ofExpression rfl form (Except.error.inj refused)
  | ok ts =>
    by_cases mem : .opening ∈ ts
    · exact .inr ⟨ts, rfl, mem⟩
    · exact .inl (outcomeUnder_of_not_mem form mem)

/-- The rule for the stack refuses values, and changes nothing else. -/
theorem refusesLeftovers_outcomeUnder (expression : String) (digits : Nat) (strictBrackets : Bool) :
    RefusesLeftovers (outcomeUnder expression digits strictBrackets false)
      (outcomeUnder expression digits strictBrackets true) := by
  rw [outcomeUnder, outcomeUnder, outcome_evaluate, outcome_evaluate]
  exact .bind _ fun ts => (Postfix.refusesLeftovers_evaluate ts rfl rfl).map _

/-- **The strict rules change no value.** The rule for brackets only refuses expressions that have
no value without it: there the bracket that is left over is an unknown symbol, unless a token before
the first one of the postfix form has failed already. The rule for the stack only refuses a value
because others are left over; a failure stays the same. -/
theorem evaluate_under_rules (expression : String) (digits : Nat) :
    (∀ strictStack,
      let strict := outcomeUnder expression digits true strictStack
      let loose := outcomeUnder expression digits false strictStack
      (∀ x, strict = .ok x ↔ loose = .ok x) ∧
      (strict ≠ loose ↔ strict = .error .unclosedBracket) ∧
      (strict = .error .unclosedBracket →
        ∃ before after, Postfix.ofExpression expression ⟨false, strictStack, digits⟩ =
            .ok (before ++ .opening :: after) ∧ .opening ∉ before ∧
          ((∃ stack, (Machine.run [] before).outcome = .ok stack) ∧
              loose = .error (.unknownSymbol "(") ∨
            ∃ e, (Machine.run [] before).outcome = .error e ∧ Machine.IsOperandFailure e ∧
              loose = .error e))) ∧
    ∀ strictBrackets,
      let strict := outcomeUnder expression digits strictBrackets true
      let loose := outcomeUnder expression digits strictBrackets false
      (∀ e, loose = .error e → strict = .error e) ∧
      ∀ x, loose = .ok x → strict = .ok x ∨ ∃ n, 2 ≤ n ∧ strict = .error (.leftoverValues n) := by
  constructor
  · intro strictStack strict loose
    rcases outcomeUnder_cases expression digits strictStack with ⟨same, other⟩ | ⟨ts, form, mem⟩
    · exact ⟨fun x => Eq.congr_left same,
        ⟨fun differ => absurd same differ, fun refused => absurd refused other⟩,
        fun refused => absurd refused other⟩
    · obtain ⟨refused, before, after, rfl, first, failed⟩ := outcomeUnder_of_mem form mem
      have fails : ∃ e, loose = .error e ∧ e ≠ .unclosedBracket := by
        rcases failed with ⟨-, unknown⟩ | ⟨e, -, operand, eq⟩
        · exact ⟨_, unknown, by simp⟩
        · refine ⟨e, eq, ?_⟩
          rcases operand with ⟨_, rfl⟩ | ⟨_, _, _, rfl⟩ <;> simp
      obtain ⟨e, loosely, other⟩ := fails
      refine ⟨fun x => ?_, ⟨fun _ => refused, fun _ same => ?_⟩,
        fun _ => ⟨before, after, form, first, failed⟩⟩
      · constructor <;> intro value
        · exact absurd (refused.symm.trans value) (by simp)
        · exact absurd (loosely.symm.trans value) (by simp)
      · exact other (Except.error.inj (loosely.symm.trans (same.symm.trans refused)))
  · intro strictBrackets strict loose
    rcases refusesLeftovers_outcomeUnder expression digits strictBrackets with
      same | ⟨⟨a, value⟩, n, two, refused⟩
    · exact ⟨fun e failed => same.trans failed, fun x value => .inl (same.trans value)⟩
    · refine ⟨fun e failed => ?_, fun x _ => .inr ⟨n, two, refused⟩⟩
      exact absurd (value.symm.trans failed) (by simp)

/-- Each rule refuses an expression: one that leaves a bracket open, and one that leaves a value
over. -/
theorem evaluate_under_rules_open_bracket :
    outcomeUnder "(3+4" 10 true true = .error .unclosedBracket ∧
      (∃ e, outcomeUnder "(3+4" 10 false true = .error e ∧ e ≠ .unclosedBracket) ∧
      ∃ x, outcomeUnder "2 3" 10 true false = .ok x ∧
        (outcomeUnder "2 3" 10 true true = .ok x ∨
          ∃ n, 2 ≤ n ∧ outcomeUnder "2 3" 10 true true = .error (.leftoverValues n)) := by
  have refused : outcomeUnder "(3+4" 10 true true = .error .unclosedBracket := by
    have read : (Lexer.ofString "(3+4").scan =
        ⟨[.opening, .number "3", .operator (.binary .plus), .number "4"], none⟩ := by
      decide +kernel
    rw [outcomeUnder, outcome_evaluate, Postfix.ofExpression, read]
    rfl
  obtain ⟨-, differ, failed⟩ := (evaluate_under_rules "(3+4" 10).1 true
  have loose : ∃ e, outcomeUnder "(3+4" 10 false true = .error e := by
    obtain ⟨-, -, -, -, ⟨-, unknown⟩ | ⟨e, -, -, eq⟩⟩ := failed refused
    · exact ⟨_, unknown⟩
    · exact ⟨e, eq⟩
  obtain ⟨e, loose⟩ := loose
  obtain ⟨x, two⟩ : ∃ x, Number.readFloat? "2" = some x :=
    Option.isSome_iff_exists.mp (by decide +kernel)
  obtain ⟨y, three⟩ : ∃ y, Number.readFloat? "3" = some y :=
    Option.isSome_iff_exists.mp (by decide +kernel)
  have value : outcomeUnder "2 3" 10 true false = .ok (y, working "2 3" _) :=
    outcome_evaluate_numbers (by decide +kernel) two three rfl
  refine ⟨refused, ⟨e, loose, ?_⟩, _, value,
    ((evaluate_under_rules "2 3" 10).2 true).2 _ value⟩
  rintro rfl
  exact differ.mpr refused (refused.trans loose.symm)

end Expression

end DeskCalculator
