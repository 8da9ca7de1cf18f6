import DeskCalculator.Proofs.Postfix.Conservation
import DeskCalculator.Proofs.Postfix.Fault
import DeskCalculator.Proofs.Token.Respelling

/-!
# Closing what is left open

Without the rule for brackets an expression may leave brackets open, and they stand in its postfix
form. Nothing else tells the form from that of the same expression with those brackets closed at its
end: each closing bracket puts out what waits down to the latest open one, in the order in which the
end of the expression would.

## Main definitions

* `Expression.closedBy`: an expression with closing brackets behind it

## Main results

* `Spells.count_sign`: a sign stands in a text as often as its token is read
* `Conversion.steps_closings`: closing brackets take away the open ones, and nothing else
* `Postfix.ofExpression_of_open_brackets`: the form of an expression that leaves brackets open
-/

namespace DeskCalculator

/-- An expression with `n` closing brackets behind it. -/
def Expression.closedBy (expression : String) (n : Nat) : String :=
  expression ++ String.ofList (List.replicate n ')')

/-! ## Signs in a text and their tokens -/

section Signs

variable {t u : Token} {ts : List Token} {s : List Char} {c : Char} {bound : Bool}

/-- A sign stands in the text of its own token only. The minus sign is left out, which two tokens
are written with. -/
theorem Token.count_source (legible : t.IsLegible bound) (sign : ofSign? c = some u)
    (minus : c ≠ '-') : t.source.toList.count c = [t].count u := by
  obtain ⟨-, source, -⟩ := isLegible_of_ofSign? sign fun _ => (rfl : true = true)
  by_cases same : t = u
  · subst same
    rw [source, List.count_singleton_self, List.count_singleton_self]
  · have absent : c ∉ t.source.toList := by
      intro mem
      by_cases number : t.kind = .number
      · obtain ⟨literal, rfl⟩ := exists_eq_number number
        exact absurd (legible.2.1 c mem) (by simp [isNumeric_of_ofSign? sign])
      by_cases word : t.kind = .word
      · have letter := (source_word legible word).2 c mem
        exact absurd letter (by simp [Lexer.isNameLetter_of_ofSign? sign])
      obtain ⟨d, v, eq, sign', cases⟩ := exists_source_eq_sign number word
      obtain rfl : c = d := by simpa [eq] using mem
      obtain rfl : u = v := Option.some.inj (sign.symm.trans sign')
      rcases cases with ⟨eq, -⟩ | ⟨eq, -⟩
      · exact same eq
      · exact minus eq
    rw [List.count_eq_zero.mpr absent, List.count_eq_zero.mpr]
    simpa [eq_comm] using same

/-- A sign stands in a text as often as its token is read. -/
theorem Spells.count_sign (h : Spells ts s) (legible : Token.AreLegible bound ts)
    (sign : Token.ofSign? c = some u) (minus : c ≠ '-') : s.count c = ts.count u := by
  have solid := Token.isBlank_of_ofSign? sign
  have gaps {gap : List Char} (blank : ∀ d ∈ gap, Text.isBlank d = true) : gap.count c = 0 := by
    rw [List.count_eq_zero]
    intro mem
    exact Bool.false_ne_true (solid.symm.trans (blank c mem))
  induction h generalizing bound with
  | nil blank => exact gaps blank
  | @cons t ts gap s blank divided rest ih =>
    rw [List.count_append, List.count_append, gaps blank, Token.count_source legible.1 sign minus,
      ih legible.2, Nat.zero_add, ← List.count_append, List.singleton_append]

end Signs

namespace Lexer

theorem count_sign {s : String} (read : (ofString s).scan.failure = none) {c : Char} {u : Token}
    (sign : Token.ofSign? c = some u) (minus : c ≠ '-') :
    s.toList.count c = (ofString s).scan.tokens.count u :=
  (spells_tokens read).count_sign (areLegible_tokens (ofString s)) sign minus

theorem scan_closings (n : Nat) (bound afterNumber : Bool) :
    scan ⟨List.replicate n ')', bound, afterNumber⟩ = ⟨List.replicate n .closing, none⟩ := by
  induction n generalizing bound afterNumber with
  | zero => exact scan_nil
  | succ n ih =>
    rw [List.replicate_succ, scan_sign (t := .closing) rfl (by simp), ih]
    rfl

/-- Behind an expression closing brackets are read one by one. -/
theorem scan_closedBy {s : String} (read : (ofString s).scan.failure = none) (n : Nat) :
    (ofString (Expression.closedBy s n)).scan =
      ⟨(ofString s).scan.tokens ++ List.replicate n .closing, none⟩ := by
  have text : ofString (Expression.closedBy s n) = (ofString s).append (List.replicate n ')') := by
    simp [ofString, append, Expression.closedBy]
  rw [text]
  rcases n with _ | n
  · simp only [List.replicate_zero, List.append_nil]
    rw [← read]
    simp [append]
  · rw [List.replicate_succ, scan_append_sign read (c := ')') rfl (by simp), scan_closings]
    rfl

end Lexer

/-! ## Closing brackets -/

namespace Conversion

variable {c d : Conversion}

theorem filter_tokens_push_bracket (c : Conversion) :
    (c.push .bracket).tokens.filter (· ≠ .opening) = c.tokens.filter (· ≠ .opening) := by
  simp [tokens, push, Waiting.token]

/-- As long as a bracket waits, a closing one takes it away, and no other token. -/
theorem exists_step_closing {n : Nat} (waits : c.waiting.count .bracket = n + 1) :
    ∃ d, c.step .closing = .ok d ∧ d.waiting.count .bracket = n ∧
      d.tokens.filter (· ≠ .opening) = c.tokens.filter (· ≠ .opening) := by
  rcases closeGroup_cases c with ⟨none, -⟩ | ⟨-, d, closed, released⟩
  · rw [List.count_eq_zero.mpr none] at waits
    cases waits
  · have count := released.count_bracket
    rw [waits, push, List.count_cons_self] at count
    refine ⟨d, closed, Nat.succ.inj count, ?_⟩
    rw [← released.tokens_eq, filter_tokens_push_bracket]

/-- As many closing brackets as wait take them all away, and no other token. -/
theorem steps_closings {n : Nat} (waits : c.waiting.count .bracket = n) :
    ∃ d, c.steps (List.replicate n .closing) = .ok d ∧ .bracket ∉ d.waiting ∧
      d.tokens.filter (· ≠ .opening) = c.tokens.filter (· ≠ .opening) := by
  induction n generalizing c with
  | zero => exact ⟨c, rfl, List.count_eq_zero.mp waits, rfl⟩
  | succ n ih =>
    obtain ⟨b, first, left, same⟩ := exists_step_closing waits
    obtain ⟨d, others, closed, same'⟩ := ih left
    exact ⟨d, steps_cons_eq_ok_iff.mpr ⟨b, first, others⟩, closed, same'.trans same⟩

end Conversion

namespace Postfix

open Conversion

variable {expression : String}

/-- **An open bracket only adds itself to the form.** An expression without a fault opens at least
as many brackets as it closes. Without the rule for brackets those that are left open stand in its
postfix form, and the other tokens of the form are the form of the expression that closes them at
its end. -/
theorem ofExpression_of_open_brackets (none : ∀ i e, ¬ FaultAt expression i e) :
    let opened := expression.toList.count '('
    let closed := expression.toList.count ')'
    ∃ p, (∀ s : Settings, s.strictBrackets = false → ofExpression expression s = .ok p) ∧
      closed ≤ opened ∧ p.count .opening = opened - closed ∧
      ∀ r, ofExpression (Expression.closedBy expression (opened - closed)) r =
        .ok (p.filter (· ≠ .opening)) := by
  intro opened closed
  obtain ⟨read, c, run⟩ := exists_steps_of_no_fault none
  have waits := (path_of_steps run).count_bracket
  rw [← Lexer.count_sign read (c := ')') rfl (by decide),
    ← Lexer.count_sign read (c := '(') rfl (by decide)] at waits
  replace waits : c.waiting.count .bracket + closed = 0 + opened := waits
  obtain ⟨d, closings, none_waits, same⟩ :=
    steps_closings (c := c) (n := opened - closed) (by omega)
  have run' := (steps_append_of_ok run _).trans closings
  refine ⟨c.tokens, ?_, by omega, ?_, ?_⟩
  · intro s loose
    exact ofExpression_eq_ok_iff.mpr ⟨read, c, run, by simp [loose], rfl⟩
  · rw [count_opening_tokens run]
    omega
  · intro r
    have whole := Lexer.scan_closedBy read (opened - closed)
    have no_opening : .opening ∉ d.tokens := mt (opening_mem_tokens_iff run').mp none_waits
    have kept : d.tokens.filter (· ≠ .opening) = d.tokens := by
      rw [List.filter_eq_self]
      intro t mem
      simpa using ne_of_mem_of_not_mem mem no_opening
    exact ofExpression_eq_ok_iff.mpr ⟨by rw [whole], d, by rwa [whole], by simp [none_waits],
      kept.symm.trans same⟩

/-- Two brackets are left open behind the product; the signs that wait are put out in the same order
whether they are closed or not. -/
theorem ofExpression_of_open_brackets_product :
    (∀ i e, ¬ FaultAt "-2*(3+(4" i e) ∧
      ofExpression "-2*(3+(4" .lenient = .ok [.number "2", .operator .negation, .number "3",
        .number "4", .opening, .operator (.binary .plus), .opening, .operator (.binary .times)] ∧
      ofExpression "-2*(3+(4))" .strict = .ok [.number "2", .operator .negation, .number "3",
        .number "4", .operator (.binary .plus), .operator (.binary .times)] := by
  have read : (Lexer.ofString "-2*(3+(4").scan = ⟨[.operator .negation, .number "2",
      .operator (.binary .times), .opening, .number "3", .operator (.binary .plus), .opening,
      .number "4"], none⟩ := by decide +kernel
  have none : ∀ i e, ¬ FaultAt "-2*(3+(4" i e :=
    not_faultAt_of_steps (by rw [read]) (by rw [read]; rfl)
  have form : ofExpression "-2*(3+(4" .lenient = .ok [.number "2", .operator .negation,
      .number "3", .number "4", .opening, .operator (.binary .plus), .opening,
      .operator (.binary .times)] := by
    rw [ofExpression, read]
    rfl
  obtain ⟨p, lenient, -, -, closed⟩ := ofExpression_of_open_brackets none
  obtain rfl := Except.ok.inj ((lenient .lenient rfl).symm.trans form)
  exact ⟨none, form, closed .strict⟩

end Postfix

end DeskCalculator
