import DeskCalculator.Evaluation
import DeskCalculator.Proofs.Postfix.Conservation
import DeskCalculator.Proofs.Token.Isolated

/-!
# Evaluation of a written form

The postfix form of an expression is written down beside its value. Nothing is lost there: the text
is read back as the same tokens, so it has the value of the expression under the same settings, and
fails for the same cause under others.

## Main results

* `Expression.outcome_evaluate_eq_ok_iff`: when an expression has a value, which, and with which
  working
* `Postfix.isIsolable_of_ofExpression`: every token of a postfix form is isolable
* `Postfix.evaluateText_of_written`: a written form stands for the form itself
-/

namespace DeskCalculator

/-! ## The value of an expression -/

namespace Expression

theorem tokens_of_ofExpression {expression : String} {s : Settings} {ts : Postfix}
    (h : Postfix.ofExpression expression s = .ok ts) :
    tokens expression = .ok (Lexer.ofString expression).scan.tokens := by
  obtain ⟨read, -⟩ := Postfix.ofExpression_eq_ok_iff.mp h
  rw [tokens, read]

/-- An expression has a value if its postfix form has tokens and a value; the working holds the
texts of both forms. -/
theorem outcome_evaluate_eq_ok_iff {expression : String} {s : Settings} {v : Float} {w : Working} :
    (evaluate expression s).outcome = .ok (v, w) ↔
      ∃ ts, Postfix.ofExpression expression s = .ok ts ∧ ts ≠ [] ∧
        (Postfix.evaluate ts s).outcome = .ok v ∧
        w = { tokens := Token.listText (Lexer.ofString expression).scan.tokens
              polish := Token.listText ts
              note := "Pipeline: jetons → RPN (shunting-yard) → pile → résultat." } := by
  cases form : Postfix.ofExpression expression s with
  | error e => simp [evaluate, toPostfix, form]
  | ok ts =>
    by_cases none : ts = []
    · simp [evaluate, toPostfix, form, none]
    · cases value : (Postfix.evaluate ts s).outcome with
      | error e =>
        simp [evaluate, toPostfix, form, none, value]
      | ok x =>
        simp [evaluate, toPostfix, form, none, value, tokens_of_ofExpression form, eq_comm]

end Expression

namespace Postfix

/-! ## The written form -/

/-- Every token of a postfix form was read, and so is isolable. -/
theorem isIsolable_of_ofExpression {expression : String} {s : Settings} {ts : Postfix}
    (h : ofExpression expression s = .ok ts) : ∀ t ∈ ts, t.IsIsolable := by
  obtain ⟨-, c, run, -, rfl⟩ := ofExpression_eq_ok_iff.mp h
  intro t ht
  obtain ⟨read, -⟩ :=
    Token.mem_unpaired ((Conversion.perm_unpaired_of_steps run).mem_iff.mp ht)
  exact Lexer.isIsolable_of_mem_scan t read

/-- Evaluating a text is evaluating the form it writes down, also if that has no tokens. -/
theorem evaluateText_eq (text : String) (r : Settings) :
    evaluateText text r = evaluate (ofText text) r := by
  simp only [evaluateText]
  split
  · next none =>
    rw [none]
    cases strict : r.strictStack <;>
      simp [evaluate, Machine.run, Machine.result, strict] <;> rfl
  · rfl

/-- **A written form stands for the form itself.** Its words are the texts of the tokens, each word
is read as the token that it writes, so the text and the form have the same evaluation under any
settings; and the form that is written down beside the value of an expression has that value. -/
theorem evaluateText_of_written (expression : String) (s : Settings) :
    (∀ ts, ofExpression expression s = .ok ts →
      Text.words (Token.listText ts) = ts.map Token.text ∧
      ofText (Token.listText ts) = ts ∧
      ∀ r, evaluateText (Token.listText ts) r = evaluate ts r) ∧
    ∀ v w, (Expression.evaluate expression s).outcome = .ok (v, w) →
      (evaluateText w.polish s).outcome = .ok v := by
  have written : ∀ ts, ofExpression expression s = .ok ts →
      Text.words (Token.listText ts) = ts.map Token.text ∧ ofText (Token.listText ts) = ts := by
    intro ts h
    have isolable := isIsolable_of_ofExpression h
    exact ⟨Token.words_listText isolable, Token.map_ofText_words_listText isolable⟩
  constructor
  · intro ts h
    obtain ⟨words, read⟩ := written ts h
    refine ⟨words, read, ?_⟩
    intro r
    rw [evaluateText_eq, read]
  · intro v w h
    obtain ⟨ts, form, -, value, rfl⟩ := Expression.outcome_evaluate_eq_ok_iff.mp h
    rw [evaluateText_eq, (written ts form).2, value]

/-- An opening bracket that is left over, and the minus sign in front of an operand, are read
back. -/
theorem evaluateText_of_written_open_bracket :
    ofExpression "(-3" .lenient = .ok [.number "3", .operator .negation, .opening] ∧
      ofText (Token.listText [.number "3", .operator .negation, .opening]) =
        [.number "3", .operator .negation, .opening] ∧
      ∃ v w, (Expression.evaluate "-3" .strict).outcome = .ok (v, w) ∧
        (evaluateText w.polish .strict).outcome = .ok v := by
  have lenient : ofExpression "(-3" .lenient =
      .ok [.number "3", .operator .negation, .opening] := by
    have read : (Lexer.ofString "(-3").scan =
        ⟨[.opening, .operator .negation, .number "3"], none⟩ := by decide +kernel
    rw [ofExpression, read]
    rfl
  have strict : ofExpression "-3" .strict = .ok [.number "3", .operator .negation] := by
    have read : (Lexer.ofString "-3").scan = ⟨[.operator .negation, .number "3"], none⟩ := by
      decide +kernel
    rw [ofExpression, read]
    rfl
  obtain ⟨x, three⟩ : ∃ x, Number.readFloat? "3" = some x :=
    Option.isSome_iff_exists.mp (by decide +kernel)
  have value : (evaluate [.number "3", .operator .negation] .strict).outcome = .ok (-x) := by
    simp [evaluate, Machine.run, Machine.step, three]
    rfl
  have found := Expression.outcome_evaluate_eq_ok_iff.mpr ⟨_, strict, by simp, value, rfl⟩
  exact ⟨lenient, ((evaluateText_of_written "(-3" .lenient).1 _ lenient).2.1, _, _, found,
    (evaluateText_of_written "-3" .strict).2 _ _ found⟩

end Postfix

end DeskCalculator
