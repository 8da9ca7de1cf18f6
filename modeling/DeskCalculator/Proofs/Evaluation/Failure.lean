import DeskCalculator.Proofs.Evaluation.Strictness
import DeskCalculator.Proofs.Number.Numeral
import DeskCalculator.Proofs.Token.Respelling

/-!
# How the evaluation of an expression fails

Any sequence of tokens can be evaluated, but the postfix form of an expression holds few kinds of
them: literals, the constant, operators, and brackets that are left open. Its evaluation therefore
fails in few ways. Every literal that can be read in an expression has a value, except the point
that stands alone.

## Main definitions

* `Postfix.EvaluationFailure`: the ways in which the evaluation of a postfix form fails

## Main results

* `Token.eq_point_or_exists_numeral`: a literal is the lone point or a plain numeral
* `Token.exists_open_of_mem_unpaired`: a bracket that is left over is one that is never closed
* `Postfix.evaluationFailure_of_ofExpression`: the evaluation of an expression fails in these ways
  only
-/

namespace DeskCalculator

namespace Token

/-! ## Literals -/

theorem exists_isLegible_of_mem {ts : List Token} {t : Token} {bound : Bool}
    (legible : AreLegible bound ts) (mem : t ∈ ts) : ∃ b, t.IsLegible b := by
  induction ts generalizing bound with
  | nil => cases mem
  | cons u ts ih =>
    rcases List.mem_cons.mp mem with rfl | later
    · exact ⟨bound, legible.1⟩
    · exact ih legible.2 later

/-- A literal that can be read is the lone point or a plain numeral. -/
theorem eq_point_or_exists_numeral {literal : String} {bound : Bool}
    (legible : (number literal).IsLegible bound) :
    literal = "." ∨ ∃ n : Number.Numeral, n.text = literal := by
  obtain ⟨ne, numeric, points⟩ := legible
  by_cases digit : ∃ c ∈ literal.toList, c.isDigit = true
  · exact .inr ⟨⟨literal, numeric, points, digit⟩, rfl⟩
  · have all : ∀ c ∈ literal.toList, c = '.' := by
      intro c hc
      by_contra other
      exact digit ⟨c, hc, Number.isDigit_of_isNumeric (numeric c hc) other⟩
    have single := List.eq_replicate_of_mem all
    rw [single, List.count_replicate_self] at points
    have pos := List.length_pos_iff.mpr ne
    rw [show literal.toList.length = 1 by omega] at single
    exact .inl (String.toList_injective single)

/-- A literal that was read is the lone point or a plain numeral. -/
theorem eq_point_or_exists_numeral_of_mem {l : Lexer} {literal : String}
    (mem : .number literal ∈ l.scan.tokens) :
    literal = "." ∨ ∃ n : Number.Numeral, n.text = literal := by
  obtain ⟨bound, legible⟩ := exists_isLegible_of_mem (Lexer.areLegible_tokens l) mem
  exact eq_point_or_exists_numeral legible

/-! ## Brackets -/

/-- A bracket that is left over is one that is never closed. -/
theorem exists_open_of_mem_unpaired {ts : List Token} (h : opening ∈ unpaired ts) :
    ∃ before after, ts = before ++ opening :: after ∧ ¬ IsClosedIn after := by
  fun_induction unpaired ts with
  | case1 => cases h
  | case2 ts closed ih =>
    obtain ⟨before, after, rfl, unclosed⟩ := ih h
    exact ⟨opening :: before, after, rfl, unclosed⟩
  | case3 ts unclosed ih => exact ⟨[], ts, rfl, unclosed⟩
  | case4 ts ih =>
    obtain ⟨before, after, rfl, unclosed⟩ := ih h
    exact ⟨closing :: before, after, rfl, unclosed⟩
  | case5 ts ih =>
    obtain ⟨before, after, rfl, unclosed⟩ := ih h
    exact ⟨comma :: before, after, rfl, unclosed⟩
  | case6 u ts opens closes divides ih =>
    rcases List.mem_cons.mp h with same | later
    · exact absurd same.symm opens
    · obtain ⟨before, after, rfl, unclosed⟩ := ih later
      exact ⟨u :: before, after, rfl, unclosed⟩

end Token

namespace Postfix

open OperationTree Machine

variable {expression : String} {s : Settings} {p : Postfix}

/-- The ways in which the evaluation of the postfix form `p` of an expression fails. -/
inductive EvaluationFailure (expression : String) (s : Settings) (p : Postfix) : Failure → Prop
  /-- The point alone is no number. -/
  | lonePoint (mem : .number "." ∈ p) : EvaluationFailure expression s p (.badNumber ".")
  /-- An operator finds fewer values than it takes. -/
  | missingOperands {o : Operator} {size : Nat} (mem : .operator o ∈ p)
    (few : size < o.operation.arity) :
    EvaluationFailure expression s p (.missingOperands o.text size o.operation.arity)
  /-- Values are left over where a single one is required. -/
  | leftoverValues {count : Nat} (strict : s.strictStack = true) (many : 2 ≤ count) :
    EvaluationFailure expression s p (.leftoverValues count)
  /-- The form is empty. -/
  | noExpression (none : p = []) : EvaluationFailure expression s p .noExpression
  /-- A bracket of the expression is never closed, and need not be. -/
  | openBracket (loose : s.strictBrackets = false) {before after : List Token}
    (read : Expression.tokens expression = .ok (before ++ .opening :: after))
    (unclosed : ¬ Token.IsClosedIn after) :
    EvaluationFailure expression s p (.unknownSymbol "(")

/-- A token of a postfix form was read. -/
theorem mem_scan_of_mem_ofExpression (form : ofExpression expression s = .ok p) {t : Token}
    (mem : t ∈ p) : t ∈ (Lexer.ofString expression).scan.tokens := by
  obtain ⟨-, c, run, -, rfl⟩ := ofExpression_eq_ok_iff.mp form
  exact (Token.mem_unpaired ((Conversion.perm_unpaired_of_steps run).mem_iff.mp mem)).1

/-- A bracket stands in a postfix form only without the rule for brackets, and if it is never
closed. -/
theorem exists_open_of_opening_mem (form : ofExpression expression s = .ok p)
    (mem : .opening ∈ p) : s.strictBrackets = false ∧ ∃ before after,
      Expression.tokens expression = .ok (before ++ .opening :: after) ∧
        ¬ Token.IsClosedIn after := by
  have read := Expression.tokens_of_ofExpression form
  obtain ⟨-, c, run, closed, rfl⟩ := ofExpression_eq_ok_iff.mp form
  have waits := (Conversion.opening_mem_tokens_iff run).mp mem
  have left := (Conversion.perm_unpaired_of_steps run).mem_iff.mp mem
  obtain ⟨before, after, eq, unclosed⟩ := Token.exists_open_of_mem_unpaired left
  refine ⟨?_, before, after, by rw [read, eq], unclosed⟩
  rw [Bool.eq_false_iff]
  exact fun strict => closed ⟨strict, waits⟩

/-- A token at fault in a postfix form is the lone point, an operator that misses operands, or a
bracket that is left open. -/
theorem evaluationFailure_of_fault {before : List Token} {t : Token} {e : Failure}
    (form : ofExpression expression s = .ok p) (mem : t ∈ p) (fault : Fault before t e) :
    EvaluationFailure expression s p e := by
  cases fault with
  | @badNumber literal unreadable =>
    have read := mem_scan_of_mem_ofExpression form mem
    rcases Token.eq_point_or_exists_numeral_of_mem read with rfl | ⟨n, rfl⟩
    · exact .lonePoint mem
    · rw [n.readFloat?_text] at unreadable
      cases unreadable
  | unknownSymbol number unknown =>
    rcases cases_of_mem_ofExpression form mem with rfl | operand | ⟨o, rfl⟩
    · obtain ⟨loose, before, after, read, unclosed⟩ := exists_open_of_opening_mem form mem
      exact .openBracket loose read unclosed
    · cases t with
      | number literal => cases number
      | pi => exact absurd rfl (unknown _)
      | operator o | unknown word | opening | closing | comma => cases operand
    · exact absurd rfl (unknown _)
  | @missingOperands _ op f stands trees few =>
    rcases cases_of_mem_ofExpression form mem with rfl | operand | ⟨o, rfl⟩
    · cases stands
    · cases t with
      | number literal => cases stands
      | pi =>
        obtain rfl := Except.ok.inj stands
        exact absurd few (Nat.not_lt_zero _)
      | operator o | unknown word | opening | closing | comma => cases operand
    · obtain rfl := Except.ok.inj stands
      exact .missingOperands mem few

/-- The evaluation of an expression fails in the listed ways only. -/
theorem evaluationFailure_of_ofExpression (form : ofExpression expression s = .ok p) {e : Failure}
    (failed : (evaluate p s).outcome = .error e) : EvaluationFailure expression s p e := by
  rcases exists_trees_or_fault p with ⟨f, rfl⟩ | ⟨f, t, after, e', rfl, fault⟩
  · rw [outcome_evaluate_listTokens] at failed
    split at failed
    · next rule =>
      obtain rfl := Except.error.inj failed
      exact .leftoverValues rule.1 rule.2
    · split at failed
      · next none =>
        obtain rfl := Except.error.inj failed
        exact .noExpression (by rw [List.getLast?_eq_none_iff.mp none, listTokens_nil])
      · cases failed
  · rw [outcome_evaluate_of_fault fault] at failed
    obtain rfl := Except.error.inj failed
    exact evaluationFailure_of_fault form (by simp) fault

/-- **The evaluation of an expression fails in few ways.** Each literal that can be read is the lone
point, which is no number, or a plain numeral, which has a value. The lone point, an operator that
misses operands, values that are left over under the rule for the stack, an empty form, and without
the rule for brackets a bracket that is never closed, are all that can be at fault; under that rule
no symbol is unknown. -/
theorem evaluate_fails_in_listed_ways (expression : String) (s : Settings) :
    (∀ literal, .number literal ∈ (Lexer.ofString expression).scan.tokens →
      literal = "." ∧ Number.readFloat? literal = none ∨
        ∃ n : Number.Numeral, n.text = literal ∧ Number.readFloat? literal = some n.value) ∧
    ∀ p, ofExpression expression s = .ok p →
      (∀ e, (evaluate p s).outcome = .error e → EvaluationFailure expression s p e) ∧
      (s.strictBrackets = true →
        ∀ symbol, (evaluate p s).outcome ≠ .error (.unknownSymbol symbol)) := by
  refine ⟨?_, fun p form => ⟨fun e => evaluationFailure_of_ofExpression form, ?_⟩⟩
  · intro literal mem
    rcases Token.eq_point_or_exists_numeral_of_mem mem with rfl | ⟨n, rfl⟩
    · exact .inl ⟨rfl, by decide +kernel⟩
    · exact .inr ⟨n, rfl, n.readFloat?_text⟩
  · intro strict symbol failed
    cases evaluationFailure_of_ofExpression form failed with
    | openBracket loose _ _ => exact Bool.false_ne_true (loose.symm.trans strict)

/-- The lone point of `(.` is at fault before the open bracket is, and the sum of `1+` misses an
operand. -/
theorem evaluate_fails_in_listed_ways_lone_point :
    (ofExpression "(." .lenient = .ok [.number ".", .opening] ∧
      (evaluate [.number ".", .opening] .lenient).outcome = .error (.badNumber ".") ∧
      EvaluationFailure "(." .lenient [.number ".", .opening] (.badNumber ".")) ∧
    ofExpression "1+" .strict = .ok [.number "1", .operator (.binary .plus)] ∧
      (∃ n : Number.Numeral, n.text = "1" ∧ Number.readFloat? "1" = some n.value) ∧
      (evaluate [.number "1", .operator (.binary .plus)] .strict).outcome =
        .error (.missingOperands "+" 1 2) ∧
      ∀ symbol, (evaluate [.number "1", .operator (.binary .plus)] .strict).outcome ≠
        .error (.unknownSymbol symbol) := by
  have bracket : (Lexer.ofString "(.").scan = ⟨[.opening, .number "."], none⟩ := by decide +kernel
  have sum : (Lexer.ofString "1+").scan = ⟨[.number "1", .operator (.binary .plus)], none⟩ := by
    decide +kernel
  have open_form : ofExpression "(." .lenient = .ok [.number ".", .opening] := by
    rw [ofExpression, bracket]
    rfl
  have sum_form : ofExpression "1+" .strict = .ok [.number "1", .operator (.binary .plus)] := by
    rw [ofExpression, sum]
    rfl
  have point : (evaluate [.number ".", .opening] .lenient).outcome = .error (.badNumber ".") :=
    outcome_evaluate_of_fault (f := []) (.badNumber (by decide +kernel)) _ _
  have one : (Number.readFloat? "1").isSome = true := by decide +kernel
  have missing : (evaluate [.number "1", .operator (.binary .plus)] .strict).outcome =
      .error (.missingOperands "+" 1 2) :=
    outcome_evaluate_of_fault (f := [.number "1" one])
      (.missingOperands (t := .operator (.binary .plus)) rfl rfl (Nat.lt_succ_self 1)) _ _
  obtain ⟨-, failures⟩ := evaluate_fails_in_listed_ways "(." .lenient
  obtain ⟨literals, others⟩ := evaluate_fails_in_listed_ways "1+" .strict
  refine ⟨⟨open_form, point, (failures _ open_form).1 _ point⟩, sum_form, ?_, missing,
    (others _ sum_form).2 rfl⟩
  rcases literals "1" (by rw [sum]; exact List.mem_cons_self) with ⟨point, -⟩ | numeral
  · exact absurd point (by decide)
  · exact numeral

end Postfix

end DeskCalculator
