import DeskCalculator.Proofs.Evaluation.Failure
import DeskCalculator.Proofs.Evaluation.Spacing
import Mathlib.Data.List.Forall2

/-!
# The literals of an expression

Whether an expression has a value does not depend on its numbers. Two expressions that differ only
in their literals are converted step by step in the same way, and evaluated on stacks of the same
height; each step succeeds for both, or fails for both and for the same cause.

## Main definitions

* `Agree`: outcomes that are related values, or the same failure
* `Token.Alike`, `Conversion.Alike`: tokens, and conversions, up to the literals
* `Token.withoutLiteral`: a token without its literal

## Main results

* `Conversion.agree_step`, `Machine.agree_step`: what one token does to a conversion, and to a stack
* `Conversion.agree_steps`, `Machine.agree_run`: what a run of tokens does to them
* `Expression.evaluate_of_same_shape`: expressions that differ in their literals only
-/

namespace DeskCalculator

/-- Outcomes that are related values, or the same failure. -/
inductive Agree {α β : Type} (R : α → β → Prop) : Except Failure α → Except Failure β → Prop
  | ok {a : α} {b : β} (related : R a b) : Agree R (.ok a) (.ok b)
  | error (e : Failure) : Agree R (.error e) (.error e)

namespace Agree

variable {α β γ δ : Type} {R : α → β → Prop} {S : γ → δ → Prop} {x : Except Failure α}
  {y : Except Failure β}

theorem bind {f : α → Except Failure γ} {g : β → Except Failure δ} (h : Agree R x y)
    (next : ∀ a b, R a b → Agree S (f a) (g b)) : Agree S (x >>= f) (y >>= g) := by
  cases h with
  | ok related => exact next _ _ related
  | error e => exact .error e

theorem map {f : α → γ} {g : β → δ} (h : Agree R x y) (next : ∀ a b, R a b → S (f a) (g b)) :
    Agree S (x.map f) (y.map g) := by
  cases h with
  | ok related => exact .ok (next _ _ related)
  | error e => exact .error e

theorem ok_or_error (h : Agree R x y) :
    (∃ a b, x = .ok a ∧ y = .ok b) ∨ ∃ e, x = .error e ∧ y = .error e := by
  cases h with
  | ok related => exact .inl ⟨_, _, rfl, rfl⟩
  | error e => exact .inr ⟨e, rfl, rfl⟩

end Agree

namespace Token

/-- Tokens that are equal, or two literals that have a value. -/
inductive Alike : Token → Token → Prop
  | number {a b : String} (left : (Number.readFloat? a).isSome = true)
    (right : (Number.readFloat? b).isSome = true) : Alike (number a) (number b)
  | refl (t : Token) : Alike t t

theorem forall₂_alike_refl (ts : List Token) : List.Forall₂ Alike ts ts :=
  List.forall₂_same.mpr fun t _ => .refl t

end Token

/-! ## The conversion -/

namespace Conversion

/-- Conversions in which the same waits, and whose outputs are equal up to the literals. -/
structure Alike (c d : Conversion) : Prop where
  waiting : c.waiting = d.waiting
  output : List.Forall₂ Token.Alike c.output.toList d.output.toList

namespace Alike

variable {c d : Conversion} {t u : Token}

theorem emit (h : c.Alike d) (same : t.Alike u) : (c.emit t).Alike (d.emit u) where
  waiting := h.waiting
  output := by
    simp only [Conversion.emit, Array.toList_push]
    exact List.rel_append h.output (.cons same .nil)

theorem push (h : c.Alike d) (w : Waiting) : (c.push w).Alike (d.push w) where
  waiting := congrArg (w :: ·) h.waiting
  output := h.output

theorem flushWhile (h : c.Alike d) (p : Waiting → Bool) :
    (c.flushWhile p).Alike (d.flushWhile p) where
  waiting := congrArg (·.dropWhile p) h.waiting
  output := by
    simp only [Conversion.flushWhile, h.waiting, Array.toList_appendList]
    exact List.rel_append h.output (Token.forall₂_alike_refl _)

theorem addOperator (h : c.Alike d) (o : Operator) :
    (c.addOperator o).Alike (d.addOperator o) := by
  unfold Conversion.addOperator
  split
  · exact h.push _
  · exact (h.flushWhile _).push _

theorem closeGroup (h : c.Alike d) : Agree Alike c.closeGroup d.closeGroup := by
  have flushed : c.flushGroup.Alike d.flushGroup := h.flushWhile _
  simp only [Conversion.closeGroup, flushed.waiting]
  split
  · exact .error _
  · exact .ok ⟨rfl, flushed.output⟩

theorem tokens (h : c.Alike d) : List.Forall₂ Token.Alike c.tokens d.tokens := by
  rw [Conversion.tokens, Conversion.tokens, h.waiting]
  exact List.rel_append h.output (Token.forall₂_alike_refl _)

end Alike

variable {c d : Conversion} {t u : Token} {ts us : List Token}

/-- **One token does the same to both conversions.** -/
theorem agree_step (h : c.Alike d) (same : t.Alike u) : Agree Alike (c.step t) (d.step u) := by
  cases same with
  | number left right => exact .ok (h.emit (.number left right))
  | refl =>
    cases t with
    | number literal | pi => exact .ok (h.emit (.refl _))
    | operator o => exact .ok (h.addOperator o)
    | unknown word => exact .error _
    | opening => exact .ok (h.push _)
    | closing => exact h.closeGroup
    | comma => exact .ok (h.flushWhile _)

theorem agree_steps (h : c.Alike d) (same : List.Forall₂ Token.Alike ts us) :
    Agree Alike (c.steps ts) (d.steps us) := by
  induction same generalizing c d with
  | nil => exact .ok h
  | cons first rest ih =>
    rw [steps_cons, steps_cons]
    exact (agree_step h first).bind fun _ _ => ih

theorem agree_finish (h : c.Alike d) (strictBrackets : Bool) :
    Agree (List.Forall₂ Token.Alike) (c.finish strictBrackets) (d.finish strictBrackets) := by
  rw [finish_eq, finish_eq, h.waiting]
  split
  · exact .error _
  · exact .ok h.tokens

end Conversion

/-! ## The stack -/

/-- An operation takes its operands from the top of a stack that is high enough. -/
theorem Operation.applyToStack_of_le {op : Operation} {stack : List Float}
    (enough : op.arity ≤ stack.length) :
    op.applyToStack stack =
      some (op.applyTo (stack.take op.arity).reverse, stack.drop op.arity) := by
  have size : (stack.take op.arity).reverse.length = op.arity := by simpa using enough
  have applied := op.applyToStack_append (stack.drop op.arity) size
  rwa [List.reverse_reverse, List.take_append_drop] at applied

namespace Machine

/-- Stacks of the same height. -/
def SameHeight (stack stack' : List Float) : Prop :=
  stack.length = stack'.length

variable {stack stack' : List Float} {t u : Token} {ts us : List Token}

theorem agree_operation {op : Operation} (stands : t.operation = .ok op)
    (h : SameHeight stack stack') :
    Agree SameHeight (step stack t).outcome (step stack' t).outcome := by
  rw [outcome_step_of_operation stands, outcome_step_of_operation stands]
  rcases Nat.lt_or_ge stack.length op.arity with few | enough
  · have few' : stack'.length < op.arity := h ▸ few
    rw [Operation.applyToStack_eq_none few, Operation.applyToStack_eq_none few', h]
    exact .error _
  · have enough' : op.arity ≤ stack'.length := h ▸ enough
    rw [Operation.applyToStack_of_le enough, Operation.applyToStack_of_le enough']
    refine .ok ?_
    simp only [SameHeight, List.length_cons, List.length_drop]
    rw [h]

/-- **One token does the same to the heights of both stacks.** -/
theorem agree_step (h : SameHeight stack stack') (same : t.Alike u) :
    Agree SameHeight (step stack t).outcome (step stack' u).outcome := by
  cases same with
  | number left right =>
    obtain ⟨x, left⟩ := Option.isSome_iff_exists.mp left
    obtain ⟨y, right⟩ := Option.isSome_iff_exists.mp right
    rw [outcome_step_of_value left, outcome_step_of_value right]
    exact .ok (congrArg (· + 1) h)
  | refl =>
    cases t with
    | number literal =>
      cases value : Number.readFloat? literal with
      | none =>
        have failed (stack : List Float) :
            (step stack (.number literal)).outcome = .error (.badNumber literal) := by
          simp [step, value]
        rw [failed, failed]
        exact .error _
      | some x =>
        rw [outcome_step_of_value value, outcome_step_of_value value]
        exact .ok (congrArg (· + 1) h)
    | pi => exact agree_operation rfl h
    | operator o => exact agree_operation rfl h
    | unknown word | opening | closing | comma => exact .error _

theorem agree_run (h : SameHeight stack stack') (same : List.Forall₂ Token.Alike ts us) :
    Agree SameHeight (run stack ts).outcome (run stack' us).outcome := by
  induction same generalizing stack stack' with
  | nil => exact .ok h
  | cons first rest ih =>
    rw [outcome_run_cons, outcome_run_cons]
    exact (agree_step h first).bind fun _ _ => ih

/-- The end looks at the height only. -/
theorem agree_result (h : SameHeight stack stack') (strictStack : Bool) :
    Agree (fun _ _ => True) (result stack strictStack) (result stack' strictStack) := by
  simp only [result]
  rw [h]
  split
  · exact .error _
  · cases stack with
    | nil =>
      obtain rfl := List.length_eq_zero_iff.mp h.symm
      exact .error _
    | cons x stack =>
      obtain ⟨y, below, rfl⟩ := List.exists_cons_of_length_eq_add_one h.symm
      exact .ok trivial

end Machine

namespace Postfix

variable {a b : String} {ts us : List Token}

theorem agree_ofExpression (left : (Lexer.ofString a).scan = ⟨ts, none⟩)
    (right : (Lexer.ofString b).scan = ⟨us, none⟩) (same : List.Forall₂ Token.Alike ts us)
    (s : Settings) :
    Agree (List.Forall₂ Token.Alike) (ofExpression a s) (ofExpression b s) := by
  simp only [ofExpression, left, right]
  exact (Conversion.agree_steps ⟨rfl, .nil⟩ same).bind fun c d h =>
    Conversion.agree_finish h s.strictBrackets

theorem agree_evaluate {p q : Postfix} (same : List.Forall₂ Token.Alike p q) (s : Settings) :
    Agree (fun _ _ => True) (evaluate p s).outcome (evaluate q s).outcome := by
  rw [outcome_evaluate, outcome_evaluate]
  exact (Machine.agree_run rfl same).bind fun _ _ h => Machine.agree_result h s.strictStack

end Postfix

/-! ## Expressions that differ in their literals -/

namespace Token

/-- A token without its literal, if it has one. -/
def withoutLiteral : Token → Token
  | number _ => number ""
  | t => t

variable {t u : Token} {ts us : List Token}

/-- Tokens that are equal without their literals are alike if the literals have a value. -/
theorem alike_of_withoutLiteral_eq (same : t.withoutLiteral = u.withoutLiteral)
    (left : ∀ a, t = number a → (Number.readFloat? a).isSome = true)
    (right : ∀ b, u = number b → (Number.readFloat? b).isSome = true) : t.Alike u := by
  cases t with
  | number a =>
    cases u with
    | number b => exact .number (left a rfl) (right b rfl)
    | pi | operator o | unknown word | opening | closing | comma => cases same
  | pi | operator o | unknown word | opening | closing | comma =>
    cases u with
    | number b => cases same
    | pi | operator o | unknown word | opening | closing | comma =>
      cases same <;> exact .refl _

theorem forall₂_alike (same : ts.map withoutLiteral = us.map withoutLiteral)
    (left : ∀ a, number a ∈ ts → (Number.readFloat? a).isSome = true)
    (right : ∀ b, number b ∈ us → (Number.readFloat? b).isSome = true) :
    List.Forall₂ Alike ts us := by
  induction ts generalizing us with
  | nil =>
    obtain rfl := List.map_eq_nil_iff.mp same.symm
    exact .nil
  | cons t ts ih =>
    obtain ⟨u, us, rfl, first, rest⟩ := List.map_eq_cons_iff.mp same.symm
    refine .cons (alike_of_withoutLiteral_eq first.symm ?_ ?_) (ih rest.symm ?_ ?_)
    · rintro a rfl
      exact left a List.mem_cons_self
    · rintro b rfl
      exact right b List.mem_cons_self
    · exact fun a mem => left a (List.mem_cons_of_mem _ mem)
    · exact fun b mem => right b (List.mem_cons_of_mem _ mem)

end Token

namespace Expression

variable {a b : String} {ts us : List Token}

/-- A literal that was read has a value, unless it is the lone point. -/
theorem isSome_readFloat?_of_mem_tokens (read : tokens a = .ok ts) (point : .number "." ∉ ts)
    {literal : String} (mem : .number literal ∈ ts) :
    (Number.readFloat? literal).isSome = true := by
  have scanned : .number literal ∈ (Lexer.ofString a).scan.tokens := by
    rwa [tokens_eq_ok_iff.mp read]
  rcases Token.eq_point_or_exists_numeral_of_mem scanned with rfl | ⟨n, rfl⟩
  · exact absurd mem point
  · exact Number.isSome_readFloat? n

/-- **Numbers do not decide whether there is a value.** Two expressions whose tokens are the same
but for the literals, none of which is the lone point, both have a value, or both fail and for the
same cause. -/
theorem evaluate_of_same_shape (left : tokens a = .ok ts) (right : tokens b = .ok us)
    (same : ts.map Token.withoutLiteral = us.map Token.withoutLiteral)
    (left_point : .number "." ∉ ts) (right_point : .number "." ∉ us) (s : Settings) :
    (∃ x y, (evaluate a s).outcome = .ok x ∧ (evaluate b s).outcome = .ok y) ∨
      ∃ e, (evaluate a s).outcome = .error e ∧ (evaluate b s).outcome = .error e := by
  have alike := Token.forall₂_alike same
    (fun _ => isSome_readFloat?_of_mem_tokens left left_point)
    (fun _ => isSome_readFloat?_of_mem_tokens right right_point)
  have forms := Postfix.agree_ofExpression (tokens_eq_ok_iff.mp left) (tokens_eq_ok_iff.mp right)
    alike s
  rw [outcome_evaluate, outcome_evaluate]
  exact (forms.bind fun p q same => (Postfix.agree_evaluate same s).map (S := fun _ _ => True)
    fun _ _ => id).ok_or_error

/-- The sum misses its second operand, whatever the first one is. -/
theorem evaluate_of_same_shape_missing_operand :
    tokens "1+" = .ok [.number "1", .operator (.binary .plus)] ∧
      tokens "99.+" = .ok [.number "99.", .operator (.binary .plus)] ∧
      (evaluate "1+" .strict).outcome = .error (.missingOperands "+" 1 2) ∧
      (evaluate "99.+" .strict).outcome = .error (.missingOperands "+" 1 2) := by
  have left : tokens "1+" = .ok [.number "1", .operator (.binary .plus)] :=
    tokens_eq_ok_iff.mpr (by decide +kernel)
  have right : tokens "99.+" = .ok [.number "99.", .operator (.binary .plus)] :=
    tokens_eq_ok_iff.mpr (by decide +kernel)
  have failed : (evaluate "1+" .strict).outcome = .error (.missingOperands "+" 1 2) := by
    have form : Postfix.ofExpression "1+" .strict =
        .ok [.number "1", .operator (.binary .plus)] := by
      rw [Postfix.ofExpression, tokens_eq_ok_iff.mp left]
      rfl
    have one : (Number.readFloat? "1").isSome = true := by decide +kernel
    have missing := Postfix.outcome_evaluate_of_fault (f := [.number "1" one])
      (.missingOperands (t := .operator (.binary .plus)) rfl rfl (Nat.lt_succ_self 1)) [] .strict
    rw [outcome_evaluate, form, Except.bind_ok]
    exact congrArg (Except.map _) missing
  refine ⟨left, right, failed, ?_⟩
  rcases evaluate_of_same_shape left right rfl (by decide) (by decide) .strict with
    ⟨x, y, value, -⟩ | ⟨e, failed', other⟩
  · exact absurd (failed.symm.trans value) (by simp)
  · rw [other, ← failed', failed]

end Expression

end DeskCalculator
