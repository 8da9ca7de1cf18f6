import DeskCalculator.Proofs.Evaluation.Rereading
import DeskCalculator.Proofs.Evaluation.Spacing

/-!
# Nothing to compute

An expression fails for want of anything to compute exactly if it holds brackets and commas alone,
and its brackets are balanced; a text in postfix form, if it is blank. In any other expression a
token reaches the postfix form or is refused. The machine never ends on an empty stack once it has
executed a token, because every token leaves a value on top.

## Main definitions

* `Token.AreEmptyGroups`: brackets and commas alone, with balanced brackets

## Main results

* `Conversion.exists_steps_iff`: what is converted without a failure
* `Postfix.ofExpression_eq_nil_iff`: which expressions have an empty postfix form
* `Machine.ne_nil_of_step`, `Machine.ne_nil_of_run`: a value is on top of the stack
* `Expression.fails_for_nothing_iff`: what has nothing to compute
-/

namespace DeskCalculator

/-! ## Empty groups -/

namespace Token

/-- Brackets and commas alone, where no bracket is closed before it is opened and all are closed in
the end. -/
structure AreEmptyGroups (ts : List Token) : Prop where
  marks : ∀ t ∈ ts, t = opening ∨ t = closing ∨ t = comma
  opened : ∀ us, us <+: ts → us.count closing ≤ us.count opening
  closed : ts.count closing = ts.count opening

instance : DecidablePred AreEmptyGroups := fun ts =>
  decidable_of_iff ((∀ t ∈ ts, t = opening ∨ t = closing ∨ t = comma) ∧
      (∀ us ∈ ts.inits, us.count closing ≤ us.count opening) ∧
      ts.count closing = ts.count opening)
    ⟨fun ⟨marks, opened, closed⟩ => ⟨marks, by simpa [List.mem_inits] using opened, closed⟩,
      fun ⟨marks, opened, closed⟩ => ⟨marks, by simpa [List.mem_inits] using opened, closed⟩⟩

variable {t : Token} {ts : List Token}

theorem unopened_eq_zero_iff :
    unopened ts = 0 ↔ ∀ us, us <+: ts → us.count closing ≤ us.count opening := by
  rw [← Nat.le_zero, ← Nat.not_lt, ← isClosedIn_iff]
  simp [IsClosedIn]

theorem mem_unpaired_of_mem (mem : t ∈ ts) (opens : t ≠ opening) (closes : t ≠ closing)
    (divides : t ≠ comma) : t ∈ unpaired ts := by
  fun_induction unpaired ts with
  | case1 => cases mem
  | case2 ts closed ih => exact ih (List.mem_of_ne_of_mem opens mem)
  | case3 ts unclosed ih => exact List.mem_cons_of_mem _ (ih (List.mem_of_ne_of_mem opens mem))
  | case4 ts ih => exact ih (List.mem_of_ne_of_mem closes mem)
  | case5 ts ih => exact ih (List.mem_of_ne_of_mem divides mem)
  | case6 u ts _ _ _ ih =>
    rcases List.mem_cons.mp mem with rfl | later
    · exact List.mem_cons_self
    · exact List.mem_cons_of_mem _ (ih later)

/-- Empty groups are the tokens of which pairs of brackets and commas leave nothing. -/
theorem areEmptyGroups_iff : AreEmptyGroups ts ↔ unopened ts = 0 ∧ unpaired ts = [] := by
  have count := count_opening_unpaired ts
  constructor
  · rintro ⟨marks, opened, closed⟩
    have partners := unopened_eq_zero_iff.mpr opened
    refine ⟨partners, List.eq_nil_iff_forall_not_mem.mpr fun t left => ?_⟩
    obtain ⟨mem, closes, divides⟩ := mem_unpaired left
    obtain rfl : t = opening := by simpa [closes, divides] using marks t mem
    have := List.count_pos_iff.mpr left
    omega
  · rintro ⟨partners, none⟩
    refine ⟨fun t mem => ?_, unopened_eq_zero_iff.mp partners, ?_⟩
    · by_contra other
      simp only [not_or] at other
      have left := mem_unpaired_of_mem mem other.1 other.2.1 other.2.2
      rw [none] at left
      cases left
    · simpa [none, partners] using count

end Token

/-! ## Empty forms -/

namespace Conversion

variable {c : Conversion} {ts : List Token}

/-- A conversion succeeds exactly if all words name something, and enough brackets wait for those
that are closed without being opened. -/
theorem exists_steps_iff : (∃ d, c.steps ts = .ok d) ↔
    (∀ word nameless, .unknown word nameless ∉ ts) ∧ Token.unopened ts ≤ c.waiting.count .bracket := by
  constructor
  · rintro ⟨d, run⟩
    have path := path_of_steps run
    exact ⟨path.unknown_not_mem, path.unopened_le⟩
  · rintro ⟨known, enough⟩
    induction ts generalizing c with
    | nil => exact ⟨c, rfl⟩
    | cons t ts ih =>
      cases step : c.step t with
      | error e =>
        rcases step_eq_error_iff.mp step with ⟨word, nameless, rfl, -⟩ | ⟨rfl, none, -⟩
        · exact absurd List.mem_cons_self (known word nameless)
        · rw [List.count_eq_zero.mpr none] at enough
          cases enough
      | ok b =>
        have enough' := ((moves_of_step step).unopened_le_iff ts).mp enough
        obtain ⟨d, others⟩ := ih (fun word nameless mem => known word nameless (List.mem_cons_of_mem _ mem)) enough'
        exact ⟨d, steps_cons_eq_ok_iff.mpr ⟨b, step, others⟩⟩

/-- From the start, empty groups are the tokens of which nothing is left. -/
theorem exists_steps_tokens_eq_nil_iff :
    (∃ c, steps {} ts = .ok c ∧ c.tokens = []) ↔ Token.AreEmptyGroups ts := by
  rw [Token.areEmptyGroups_iff]
  constructor
  · rintro ⟨c, run, none⟩
    have kept := perm_unpaired_of_steps run
    rw [none] at kept
    exact ⟨Nat.le_zero.mp (path_of_steps run).unopened_le, kept.nil_eq.symm⟩
  · rintro ⟨partners, none⟩
    have known : ∀ word nameless, .unknown word nameless ∉ ts := by
      intro word nameless mem
      have left := Token.mem_unpaired_of_mem mem (by simp) (by simp) (by simp)
      rw [none] at left
      cases left
    obtain ⟨c, run⟩ := exists_steps_iff.mpr ⟨known, partners ▸ Nat.zero_le _⟩
    have kept := perm_unpaired_of_steps run
    rw [none] at kept
    exact ⟨c, run, kept.eq_nil⟩

end Conversion

namespace Postfix

variable {expression : String} {r : Settings} {ts : Postfix}

/-- **The expressions with an empty postfix form** are those that are read as empty groups. -/
theorem ofExpression_eq_nil_iff : ofExpression expression r = .ok [] ↔
    ∃ ts, Expression.tokens expression = .ok ts ∧ Token.AreEmptyGroups ts := by
  rw [ofExpression_eq_ok_iff]
  constructor
  · rintro ⟨read, c, run, -, none⟩
    exact ⟨_, by rw [Expression.tokens, read],
      Conversion.exists_steps_tokens_eq_nil_iff.mp ⟨c, run, none⟩⟩
  · rintro ⟨ts, read, groups⟩
    rw [Expression.tokens_eq_ok_iff] at read
    obtain ⟨c, run, none⟩ := Conversion.exists_steps_tokens_eq_nil_iff.mpr groups
    rw [read]
    have waits : c.waiting = [] := by simpa using (List.append_eq_nil_iff.mp none).2
    exact ⟨rfl, c, run, by simp [waits], none⟩

/-- The conversion does not fail for want of an expression. -/
theorem ne_noExpression_of_ofExpression {e : Failure} (h : ofExpression expression r = .error e) :
    e ≠ .noExpression := by
  rcases failure_cases_ofExpression h with (⟨word, rfl⟩ | rfl) | ⟨rest, rfl⟩ | ⟨-, rfl⟩ <;> simp

end Postfix

/-! ## The stack is not empty -/

namespace Machine

variable {stack stack' : List Float} {t : Token} {ts : List Token} {e : Failure}

/-- Every token that is executed leaves a value on top. -/
theorem ne_nil_of_step (h : (step stack t).outcome = .ok stack') : stack' ≠ [] := by
  rcases step_cases stack t with ⟨v, below, value⟩ | ⟨f, failed, -⟩ | ⟨failed, -⟩
  · obtain rfl := Except.ok.inj (value.symm.trans h)
    exact List.cons_ne_nil v below
  · cases failed.symm.trans h
  · cases failed.symm.trans h

/-- Once a token has been executed, the stack is not empty any more. -/
theorem ne_nil_of_run (h : (run stack ts).outcome = .ok stack') (some : stack ≠ [] ∨ ts ≠ []) :
    stack' ≠ [] := by
  induction ts generalizing stack with
  | nil =>
    obtain rfl := Except.ok.inj h
    exact some.resolve_right (by simp)
  | cons t ts ih =>
    rw [outcome_run_cons] at h
    cases first : (step stack t).outcome with
    | error f =>
      rw [first] at h
      cases h
    | ok below =>
      rw [first] at h
      exact ih h (.inl (ne_nil_of_step first))

theorem outcome_run_eq_nil_iff : (run [] ts).outcome = .ok [] ↔ ts = [] := by
  constructor
  · intro h
    by_contra some
    exact ne_nil_of_run h (.inr some) rfl
  · rintro rfl
    rfl

/-- No token fails for want of tokens. -/
theorem ne_noExpression_of_run (h : (run stack ts).outcome = .error e) : e ≠ .noExpression := by
  obtain ⟨below, t, -, failed⟩ := exists_step_of_run_eq_error h
  rcases step_cases below t with ⟨v, rest, value⟩ | ⟨f, cause, operand⟩ | ⟨cause, -⟩
  · cases value.symm.trans failed
  · obtain rfl := Except.error.inj (cause.symm.trans failed)
    rcases operand with ⟨_, rfl⟩ | ⟨_, _, _, rfl⟩ <;> simp
  · simp [← Except.error.inj (cause.symm.trans failed)]

end Machine

/-- The evaluation of tokens fails for want of an expression only if there are none. -/
theorem Postfix.outcome_evaluate_eq_noExpression_iff {ts : Postfix} {r : Settings} :
    (evaluate ts r).outcome = .error .noExpression ↔ ts = [] := by
  constructor
  · intro h
    rcases failure_cases_evaluate h with failed | ⟨count, other⟩ | ⟨empty, -⟩
    · exact absurd rfl (Machine.ne_noExpression_of_run failed)
    · cases other
    · exact Machine.outcome_run_eq_nil_iff.mp empty
  · rintro rfl
    exact outcome_evaluate_nil r

/-! ## Blank texts -/

namespace Text

theorem words_eq_nil_iff {s : String} : words s = [] ↔ ∀ c ∈ s.toList, isBlank c = true := by
  rw [words, List.map_eq_nil_iff]
  induction s.toList with
  | nil => simp [List.splitOnP_nil]
  | cons c r ih =>
    rw [List.splitOnP_cons_eq_if_modifyHead]
    split
    · next blank => simpa [blank] using ih
    · next solid =>
      obtain ⟨w, ws, parts⟩ := List.exists_cons_of_ne_nil (List.splitOnP_ne_nil isBlank r)
      simp [parts, solid]

end Text

namespace Expression

/-- **What has nothing to compute.** An expression fails for want of anything to compute exactly if
it is read as empty groups, whatever the settings, and a text in postfix form exactly if it is
blank. The machine ends on an empty stack only if there was no token at all; so a sequence with
tokens never fails for that cause. -/
theorem fails_for_nothing_iff :
    (∀ expression r, (evaluate expression r).outcome = .error .noExpression ↔
      ∃ ts, tokens expression = .ok ts ∧ Token.AreEmptyGroups ts) ∧
    (∀ text r, (Postfix.evaluateText text r).outcome = .error .noExpression ↔
      ∀ c ∈ text.toList, Text.isBlank c = true) ∧
    ∀ ts, ((Machine.run [] ts).outcome = .ok [] ↔ ts = []) ∧
      ∀ r, (Postfix.evaluate ts r).outcome = .error .noExpression ↔ ts = [] := by
  refine ⟨fun expression r => ?_, fun text r => ?_, fun ts => ⟨Machine.outcome_run_eq_nil_iff,
    fun r => Postfix.outcome_evaluate_eq_noExpression_iff⟩⟩
  · rw [outcome_evaluate_eq_error_iff, ← Postfix.ofExpression_eq_nil_iff (r := r)]
    constructor
    · rintro (failed | ⟨p, form, none⟩)
      · exact absurd rfl (Postfix.ne_noExpression_of_ofExpression failed)
      · rwa [Postfix.outcome_evaluate_eq_noExpression_iff.mp none] at form
    · intro form
      exact .inr ⟨[], form, Postfix.outcome_evaluate_nil r⟩
  · rw [Postfix.evaluateText_eq, Postfix.outcome_evaluate_eq_noExpression_iff, Postfix.ofText,
      List.map_eq_nil_iff, Text.words_eq_nil_iff]

/-- Groups around a comma hold nothing; a bracket that is left open is no empty group, although
nothing else is there. -/
theorem fails_for_nothing_iff_comma :
    (evaluate "((),\t) ()" .lenient).outcome = .error .noExpression ∧
      (evaluate "()(" .lenient).outcome ≠ .error .noExpression ∧
      (Postfix.evaluateText "\u3000 \n" .strict).outcome = .error .noExpression := by
  obtain ⟨groups, blanks, -⟩ := fails_for_nothing_iff
  refine ⟨(groups _ _).mpr ⟨[.opening, .opening, .closing, .comma, .closing, .opening, .closing],
    tokens_eq_ok_iff.mpr (by decide +kernel), by decide +kernel⟩, ?_,
    (blanks _ _).mpr (List.all_eq_true.mp (by decide +kernel))⟩
  rw [Ne, groups]
  rintro ⟨ts, read, none⟩
  have brackets : tokens "()(" = .ok [.opening, .closing, .opening] :=
    tokens_eq_ok_iff.mpr (by decide +kernel)
  obtain rfl := Except.ok.inj (brackets.symm.trans read)
  exact absurd none (by decide +kernel)

end Expression

end DeskCalculator
