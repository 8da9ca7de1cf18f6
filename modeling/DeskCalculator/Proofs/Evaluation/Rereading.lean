import DeskCalculator.Proofs.Evaluation.Strictness

/-!
# An expression is read twice

The conversion takes one token after the other from the text and stops at the first failure, of
whatever kind. An expression that has a value is read once more for its working. That second reading
cannot fail: where the conversion came to the end of the text, it has taken exactly the tokens which
the second reading collects. So an expression has the same value whether its working is wanted or
not.

## Main definitions

* `Conversion.Pass`, `Conversion.pass`: one pass over a text that converts each token before the
  next one is read

## Main results

* `Conversion.outcome_pass`: a pass has the outcome of a conversion of all tokens
* `Conversion.scan_of_pass`: a pass that comes to its end has taken all tokens
* `Expression.rereading_agrees`: what both readings come to
-/

namespace DeskCalculator

namespace Conversion

/-- What a pass over a text comes to. -/
structure Pass where
  /-- The tokens that were taken from the text. -/
  taken : List Token
  /-- The conversion of these tokens, or the failure that ended the pass. -/
  outcome : Except Failure Conversion

/-- One pass over a text: each token is converted before the next one is read, and nothing is read
behind a failure. -/
def pass (c : Conversion) (l : Lexer) : Pass :=
  match _read : l.next with
  | (none, _) => ⟨[], .ok c⟩
  | (some (.error e), _) => ⟨[], .error e⟩
  | (some (.ok t), l') =>
    match c.step t with
    | .error e => ⟨[t], .error e⟩
    | .ok d =>
      let p := d.pass l'
      ⟨t :: p.taken, p.outcome⟩
termination_by l.rest.length
decreasing_by exact Lexer.length_lt_of_next _read

variable {c d : Conversion} {l l' : Lexer} {t : Token} {e : Failure}

theorem pass_of_end (h : l.next = (none, l')) : c.pass l = ⟨[], .ok c⟩ := by
  rw [pass]
  split <;> simp_all

theorem pass_of_failure (h : l.next = (some (.error e), l')) : c.pass l = ⟨[], .error e⟩ := by
  rw [pass]
  split <;> simp_all

theorem pass_of_refusal (h : l.next = (some (.ok t), l')) (refused : c.step t = .error e) :
    c.pass l = ⟨[t], .error e⟩ := by
  rw [pass]
  split <;> simp_all

theorem pass_of_step (h : l.next = (some (.ok t), l')) (step : c.step t = .ok d) :
    c.pass l = ⟨t :: (d.pass l').taken, (d.pass l').outcome⟩ := by
  rw [pass]
  split <;> simp_all

/-- A pass has the outcome of a conversion of all tokens, which looks at the failure to read on only
when the tokens before it are converted. -/
theorem outcome_pass (c : Conversion) (l : Lexer) :
    (c.pass l).outcome = c.steps l.scan.tokens >>= fun d =>
      match l.scan.failure with
      | some e => .error e
      | none => .ok d := by
  induction l using Lexer.scan_induction generalizing c with
  | ended l l' h =>
    rw [pass_of_end h, Lexer.scan_of_end h]
    rfl
  | failed l l' e h =>
    rw [pass_of_failure h, Lexer.scan_of_failure h]
    rfl
  | token l l' t h ih =>
    rw [Lexer.scan_of_token h, steps_cons]
    cases step : c.step t with
    | error e => rw [pass_of_refusal h step, Except.bind_error, Except.bind_error]
    | ok d => rw [pass_of_step h step, ih, Except.bind_ok]

/-- A pass that comes to its end has taken the tokens that a reading of the text collects, and that
reading does not fail. -/
theorem scan_of_pass (h : (c.pass l).outcome = .ok d) : l.scan = ⟨(c.pass l).taken, none⟩ := by
  induction l using Lexer.scan_induction generalizing c with
  | ended l l' read => rw [pass_of_end read, Lexer.scan_of_end read]
  | failed l l' e read =>
    rw [pass_of_failure read] at h
    cases h
  | token l l' t read ih =>
    cases step : c.step t with
    | error e =>
      rw [pass_of_refusal read step] at h
      cases h
    | ok b =>
      rw [pass_of_step read step] at h
      rw [pass_of_step read step, Lexer.scan_of_token read, ih h]

end Conversion

namespace Postfix

/-- The postfix form is that of one pass over the expression. -/
theorem ofExpression_eq_pass (expression : String) (r : Settings) :
    ofExpression expression r =
      (Conversion.pass {} (Lexer.ofString expression)).outcome >>= fun c =>
        c.finish r.strictBrackets := by
  rw [Conversion.outcome_pass, ofExpression, bind_assoc]
  congr 1
  ext c : 1
  cases (Lexer.ofString expression).scan.failure <;> rfl

theorem tokens_eq_taken {expression : String} {r : Settings} {p : Postfix}
    (form : ofExpression expression r = .ok p) :
    Expression.tokens expression =
      .ok (Conversion.pass {} (Lexer.ofString expression)).taken := by
  rw [ofExpression_eq_pass] at form
  cases passed : (Conversion.pass {} (Lexer.ofString expression)).outcome with
  | error e =>
    rw [passed] at form
    cases form
  | ok c => rw [Expression.tokens, Conversion.scan_of_pass passed]

end Postfix

namespace Expression

/-- Without its working an expression has the same value, or fails for the same cause. -/
theorem value_eq_map_fst (expression : String) :
    value expression = (evaluate expression .standard).outcome.map Prod.fst := by
  rw [outcome_evaluate, value]
  cases Postfix.ofExpression expression .standard with
  | error e => rfl
  | ok ts =>
    rw [Except.bind_ok, Except.bind_ok]
    split
    · next none =>
      rw [none, Postfix.outcome_evaluate_nil]
      rfl
    · cases (Postfix.evaluate ts .standard).outcome <;> rfl

/-- An expression fails for the cause for which it has no postfix form, or its form no value. -/
theorem outcome_evaluate_eq_error_iff {expression : String} {r : Settings} {e : Failure} :
    (evaluate expression r).outcome = .error e ↔
      Postfix.ofExpression expression r = .error e ∨
        ∃ p, Postfix.ofExpression expression r = .ok p ∧
          (Postfix.evaluate p r).outcome = .error e := by
  rw [outcome_evaluate]
  cases Postfix.ofExpression expression r with
  | error f => simp
  | ok p => cases value : (Postfix.evaluate p r).outcome <;> simp [value, Except.map]

/-- **What both readings come to.** The value of an expression does not depend on whether its
working is wanted. The postfix form is that of one pass over the text; once there is one, reading
the text again succeeds and gives the tokens that were taken in the pass. So only the conversion and
the evaluation of the form fail, and a working holds the texts of those tokens and of the form that
was evaluated. -/
theorem rereading_agrees (expression : String) :
    value expression = (evaluate expression .standard).outcome.map Prod.fst ∧
    ∀ r,
      let pass := Conversion.pass {} (Lexer.ofString expression)
      Postfix.ofExpression expression r = (pass.outcome >>= fun c => c.finish r.strictBrackets) ∧
      (∀ p, Postfix.ofExpression expression r = .ok p → tokens expression = .ok pass.taken) ∧
      (∀ e, (evaluate expression r).outcome = .error e ↔
        Postfix.ofExpression expression r = .error e ∨
          ∃ p, Postfix.ofExpression expression r = .ok p ∧
            (Postfix.evaluate p r).outcome = .error e) ∧
      ∀ v w, (evaluate expression r).outcome = .ok (v, w) →
        ∃ p, Postfix.ofExpression expression r = .ok p ∧
          (Postfix.evaluate p r).outcome = .ok v ∧
          w.tokens = Token.listText pass.taken ∧ w.polish = Token.listText p := by
  refine ⟨value_eq_map_fst expression, fun r => ⟨Postfix.ofExpression_eq_pass expression r,
    fun p => Postfix.tokens_eq_taken, fun e => outcome_evaluate_eq_error_iff, ?_⟩⟩
  intro v w found
  obtain ⟨p, form, -, value, rfl⟩ := outcome_evaluate_eq_ok_iff.mp found
  refine ⟨p, form, value, ?_, rfl⟩
  -- both ways to read the text a second time are the same
  have again := (tokens_of_ofExpression form).symm.trans (Postfix.tokens_eq_taken form)
  rw [Except.ok.inj again]

/-- The two minus signs of `2--3` differ in both texts of its working; `2 3` is converted and read
again, and only its evaluation fails. -/
theorem rereading_agrees_two_signs :
    (∃ p v w, Postfix.ofExpression "2--3" .strict = .ok p ∧
      (evaluate "2--3" .strict).outcome = .ok (v, w) ∧ w.tokens = "2 - ~ 3" ∧
      w.polish = "2 3 ~ -") ∧
    (∃ p, Postfix.ofExpression "2 3" .strict = .ok p ∧
      (Postfix.evaluate p .strict).outcome = .error (.leftoverValues 2)) ∧
    (evaluate "2 3" .strict).outcome = .error (.leftoverValues 2) := by
  have two : (Number.readFloat? "2").isSome = true := by decide +kernel
  have three : (Number.readFloat? "3").isSome = true := by decide +kernel
  have read : (Lexer.ofString "2--3").scan = ⟨[.number "2", .operator (.binary .minus),
      .operator .negation, .number "3"], none⟩ := by decide +kernel
  have form : Postfix.ofExpression "2--3" .strict = .ok [.number "2", .number "3",
      .operator .negation, .operator (.binary .minus)] := by
    rw [Postfix.ofExpression, read]
    rfl
  obtain ⟨x, hx⟩ := Option.isSome_iff_exists.mp two
  obtain ⟨y, hy⟩ := Option.isSome_iff_exists.mp three
  have value : (Postfix.evaluate [.number "2", .number "3", .operator .negation,
      .operator (.binary .minus)] .strict).outcome = .ok (x - -y) := by
    simp [Postfix.evaluate, Machine.run, Machine.step, hx, hy]
    rfl
  have found := outcome_evaluate_eq_ok_iff.mpr ⟨_, form, by simp, value, rfl⟩
  obtain ⟨-, taken, -, working⟩ := (rereading_agrees "2--3").2 .strict
  obtain ⟨p, form', -, tokens, polish⟩ := working _ _ found
  obtain rfl := Except.ok.inj (form'.symm.trans form)
  have again : (Conversion.pass {} (Lexer.ofString "2--3")).taken = [.number "2",
      .operator (.binary .minus), .operator .negation, .number "3"] := by
    rw [← Except.ok.inj ((tokens_of_ofExpression form).symm.trans (taken _ form)), read]
  have numbers : Postfix.ofExpression "2 3" .strict = .ok [.number "2", .number "3"] :=
    ofExpression_numbers (by decide +kernel) .strict
  have refused : (Postfix.evaluate [.number "2", .number "3"] .strict).outcome =
      .error (.leftoverValues 2) :=
    Postfix.outcome_evaluate_listTokens [.number "2" two, .number "3" three] .strict
  obtain ⟨-, -, failed, -⟩ := (rereading_agrees "2 3").2 .strict
  exact ⟨⟨_, _, _, form, found, tokens.trans (congrArg Token.listText again), polish⟩,
    ⟨_, numbers, refused⟩, (failed _).mpr (.inr ⟨_, numbers, refused⟩)⟩

end Expression

end DeskCalculator
