import DeskCalculator.Proofs.Evaluation.Strictness
import Mathlib.Algebra.Ring.Int.Defs
import Mathlib.Data.List.Forall2
import Mathlib.Data.List.Infix

/-!
# What an evaluation writes

The journal of an evaluation tells what happened. Each operation that was executed has its line, in
the order of execution, with the value that it put on the stack and the height of the stack behind
it, and the line of the value stands at the end, if there is a value. The height depends on the
tokens up to the operation alone: each token takes the operands that it needs and puts one value.

## Main definitions

* `Token.gain`: by how much a token raises the stack
* `Machine.applications`: the operations of a sequence that are executed
* `Machine.Shows`: what the line of an operation says

## Main results

* `Machine.step_writes`: what a token does to the stack, and what it writes
* `Machine.length_run`: the height of the stack
* `Machine.forall₂_shows_journal_run`: the lines of a run
* `Journal.tells_evaluations`: the journals of the two ways to evaluate a text
-/

namespace DeskCalculator

namespace Token

/-- The number of operands that a token takes from the stack. -/
def arity (t : Token) : Nat :=
  match t.operation with
  | .ok op => op.arity
  | .error _ => 0

/-- By how much a token raises the stack: it takes its operands and puts one value. -/
def gain (t : Token) : Int :=
  1 - t.arity

end Token

/-- An operation takes as many values from the stack as it has operands. -/
theorem Operation.length_of_applyToStack {op : Operation} {stack below : List Float} {value : Float}
    (h : op.applyToStack stack = some (value, below)) :
    stack.length = below.length + op.arity := by
  cases op with
  | constant c =>
    obtain ⟨rfl, rfl⟩ := Prod.mk.inj (Option.some.inj h)
    rfl
  | unary f =>
    rcases stack with _ | ⟨x, stack⟩
    · cases h
    · obtain ⟨rfl, rfl⟩ := Prod.mk.inj (Option.some.inj h)
      rfl
  | binary f =>
    rcases stack with _ | ⟨y, _ | ⟨x, stack⟩⟩
    · cases h
    · cases h
    · obtain ⟨rfl, rfl⟩ := Prod.mk.inj (Option.some.inj h)
      rfl

namespace Machine

variable {stack below : List Float} {t : Token} {ts us : List Token} {value : Float} {e : Failure}

/-! ## One token -/

theorem journal_step_of_operation {op : Operation} (stands : t.operation = .ok op)
    (stack : List Float) :
    (step stack t).journal =
      match op.applyToStack stack with
      | some (value, below) => [.applied t.text value (below.length + 1)]
      | none => [] := by
  cases t with
  | number literal | unknown word | opening | closing | comma => cases stands
  | pi | operator o =>
    obtain rfl := Except.ok.inj stands
    rw [step, Logged.journal_bind_of_ok stands]
    · cases Operation.applyToStack _ stack <;> rfl
    all_goals simp

/-- What a token puts on the stack, and what it writes: only operations are recorded, with their
value and the height of the stack. A token that fails writes nothing. -/
theorem step_writes (stack : List Float) (t : Token) :
    (∃ value below, (step stack t).outcome = .ok (value :: below) ∧
        (below.length + 1 : Int) = stack.length + t.gain ∧
        (step stack t).journal =
          if t.isNumber then [] else [.applied t.text value (below.length + 1)]) ∨
      ∃ e, (step stack t).outcome = .error e ∧ (step stack t).journal = [] := by
  cases stands : t.operation with
  | ok op =>
    have operation : t.isNumber = false := by
      cases t <;> first | rfl | cases stands
    rw [outcome_step_of_operation stands, journal_step_of_operation stands]
    cases applied : op.applyToStack stack with
    | none => exact .inr ⟨_, rfl, rfl⟩
    | some found =>
      refine .inl ⟨found.1, found.2, rfl, ?_, by rw [operation]; rfl⟩
      have taken := Operation.length_of_applyToStack applied
      simp only [Token.gain, Token.arity, stands]
      omega
  | error _ =>
    cases t with
    | number literal =>
      cases read : Number.readFloat? literal with
      | some value =>
        exact .inl ⟨value, stack, outcome_step_of_value read stack, rfl, by simp [step, read]; rfl⟩
      | none => exact .inr ⟨.badNumber literal, by simp [step, read], by simp [step, read]⟩
    | pi | operator o => cases stands
    | unknown word | opening | closing | comma => exact .inr ⟨_, rfl, rfl⟩

/-! ## A run -/

theorem outcome_run_concat (stack : List Float) (ts : List Token) (t : Token) :
    (run stack (ts ++ [t])).outcome =
      (run stack ts).outcome >>= fun below => (step below t).outcome := by
  rw [outcome_run_append]
  exact congrArg _ (funext fun below => outcome_run_singleton below t)

/-- A token behind others is executed, and writes, if none of them fails. -/
theorem journal_run_concat (stack : List Float) (ts : List Token) (t : Token) :
    (run stack (ts ++ [t])).journal =
      (run stack ts).journal ++
        match (run stack ts).outcome with
        | .ok below => (step below t).journal
        | .error _ => [] := by
  induction ts generalizing stack with
  | nil =>
    show (step stack t >>= fun below => run below []).journal = (step stack t).journal
    cases first : (step stack t).outcome with
    | ok below => exact (Logged.journal_bind_of_ok first _).trans (List.append_nil _)
    | error e => exact Logged.journal_bind_of_error first _
  | cons u ts ih =>
    rw [outcome_run_cons]
    show (step stack u >>= fun below => run below (ts ++ [t])).journal =
      (step stack u >>= fun below => run below ts).journal ++ _
    cases first : (step stack u).outcome with
    | ok below =>
      rw [Logged.journal_bind_of_ok first, Logged.journal_bind_of_ok first, ih, List.append_assoc,
        Except.bind_ok]
    | error e =>
      rw [Logged.journal_bind_of_error first, Logged.journal_bind_of_error first]
      exact (List.append_nil _).symm

/-- **The height of the stack** behind tokens that are executed is what they gain. -/
theorem length_run (h : (run [] ts).outcome = .ok stack) :
    (stack.length : Int) = (ts.map Token.gain).sum := by
  induction ts using List.reverseRecOn generalizing stack with
  | nil =>
    obtain rfl := Except.ok.inj h
    rfl
  | append_singleton ts t ih =>
    rw [outcome_run_concat] at h
    cases before : (run [] ts).outcome with
    | error e =>
      rw [before] at h
      cases h
    | ok under =>
      rw [before, Except.bind_ok] at h
      rcases step_writes under t with ⟨value, below, pushed, height, -⟩ | ⟨e, failed, -⟩
      · obtain rfl := Except.ok.inj (pushed.symm.trans h)
        rw [List.map_append, List.sum_append, ← ih before, List.map_singleton, List.sum_singleton,
          ← height]
        rfl
      · cases failed.symm.trans h

/-! ## The lines of a run -/

/-- The operations of a sequence that are executed, in their order, each as the part of the sequence
that ends with it. -/
def applications (ts : List Token) : List (List Token) :=
  ts.inits.filter fun q => (q.getLast?.any fun t => !t.isNumber) && (run [] q).outcome.isOk

/-- Behind `pi ~` a sign between two operands finds only one. -/
example : applications [.pi, .operator .negation, .operator (.binary .plus)] =
    [[.pi], [.pi, .operator .negation]] := rfl

/-- The line of an operation names it and says the value that it put on the stack, and as the height
of the stack what all tokens gained. -/
def Shows (q : List Token) (line : Level × String) : Prop :=
  ∃ t value below, ∃ size : Nat, t ∈ q.getLast? ∧ (run [] q).outcome = .ok (value :: below) ∧
    (size : Int) = (q.map Token.gain).sum ∧
    line = (.trace, t.text ++ " -> " ++ Number.plainText value ++ " (pile: " ++ size.repr ++ ")")

/-- The last token of a sequence adds an operation if it is none of the numbers and executed. -/
theorem applications_concat (ts : List Token) (t : Token) :
    applications (ts ++ [t]) = applications ts ++
      if t.isNumber = false ∧ (run [] (ts ++ [t])).outcome.isOk = true then [ts ++ [t]]
      else [] := by
  rw [applications, List.inits_append, List.filter_append]
  congr 1
  by_cases executed : t.isNumber = false ∧ (run [] (ts ++ [t])).outcome.isOk = true
  · rw [if_pos executed]
    simp [executed]
  · rw [if_neg executed]
    simpa using executed

theorem applications_concat_of_error (failed : (run [] (ts ++ [t])).outcome = .error e) :
    applications (ts ++ [t]) = applications ts := by
  rw [applications_concat, failed, if_neg, List.append_nil]
  rintro ⟨-, executed⟩
  cases executed

theorem applications_concat_of_ok (pushed : (run [] (ts ++ [t])).outcome = .ok stack) :
    applications (ts ++ [t]) =
      applications ts ++ if t.isNumber then [] else [ts ++ [t]] := by
  rw [applications_concat, pushed]
  cases t.isNumber <;> rfl

/-- The line of the last token shows it, if it has one. -/
theorem shows_concat (pushed : (run [] (ts ++ [t])).outcome = .ok (value :: below)) :
    Shows (ts ++ [t]) (.trace, (Record.applied t.text value (below.length + 1)).message) := by
  refine ⟨t, value, below, below.length + 1, ?_, pushed, length_run pushed, rfl⟩
  rw [List.getLast?_concat]
  rfl

/-- **The lines of a run** are those of the operations that it executes. -/
theorem forall₂_shows_journal_run (ts : List Token) :
    List.Forall₂ Shows (applications ts)
      ((run [] ts).journal.map fun r => (r.level, r.message)) := by
  induction ts using List.reverseRecOn with
  | nil => exact .nil
  | append_singleton ts t ih =>
    rw [journal_run_concat, List.map_append]
    have last := outcome_run_concat [] ts t
    cases before : (run [] ts).outcome with
    | error e =>
      rw [before] at last
      rw [applications_concat_of_error last]
      simpa using ih
    | ok under =>
      rw [before, Except.bind_ok] at last
      show List.Forall₂ Shows _ (_ ++ (step under t).journal.map _)
      rcases step_writes under t with ⟨value, below, pushed, -, written⟩ | ⟨e, failed, written⟩
      · rw [applications_concat_of_ok (last.trans pushed), written]
        apply List.rel_append ih
        cases t.isNumber with
        | true => exact .nil
        | false => exact .cons (shows_concat (last.trans pushed)) .nil
      · rw [applications_concat_of_error (last.trans failed), written]
        simpa using ih

end Machine

/-! ## An evaluation -/

/-- The value is recorded at the end, if there is one. -/
theorem Postfix.journal_evaluate (ts : Postfix) (s : Settings) :
    (evaluate ts s).journal = (Machine.run [] ts).journal ++
      match (evaluate ts s).outcome with
      | .ok value => [.evaluated value]
      | .error _ => [] := by
  rw [outcome_evaluate, evaluate]
  cases ran : (Machine.run [] ts).outcome with
  | error e =>
    rw [Logged.journal_bind_of_error ran]
    exact (List.append_nil _).symm
  | ok stack =>
    rw [Logged.journal_bind_of_ok ran, Except.bind_ok]
    cases Machine.result stack s.strictStack <;> rfl

namespace Expression

variable {expression : String} {s : Settings} {ts : Postfix}

theorem journal_evaluate_of_error {e : Failure}
    (form : Postfix.ofExpression expression s = .error e) :
    (evaluate expression s).journal = [] := by
  have failed : (toPostfix expression s).outcome = .error e := by simp [toPostfix, form]
  rw [evaluate, Logged.journal_bind_of_error failed, toPostfix, Logged.journal_bind_of_error form,
    Logged.journal_ofExcept]

/-- The postfix form is recorded in front of its run, the value and the tokens behind it, if there
is a value. -/
theorem journal_evaluate_of_ok (form : Postfix.ofExpression expression s = .ok ts) :
    (evaluate expression s).journal =
      .converted expression ts :: (Machine.run [] ts).journal ++
        match (evaluate expression s).outcome with
        | .ok (value, _) =>
          [.evaluated value, .tokenized expression (Lexer.ofString expression).scan.tokens]
        | .error _ => [] := by
  have converted : (toPostfix expression s).outcome = .ok ts := by simp [toPostfix, form]
  have first : (toPostfix expression s).journal = [.converted expression ts] := by
    rw [toPostfix, Logged.journal_bind_of_ok form]
    rfl
  rw [outcome_evaluate, form, Except.bind_ok, evaluate, Logged.journal_bind_of_ok converted, first]
  refine congrArg (Record.converted expression ts :: ·) ?_
  by_cases none : ts = []
  · rw [if_pos none, none, Postfix.outcome_evaluate_nil]
    rfl
  · rw [if_neg none]
    cases value : (Postfix.evaluate ts s).outcome with
    | error e =>
      rw [Logged.journal_bind_of_error value, Postfix.journal_evaluate, value]
      rfl
    | ok v =>
      rw [Logged.journal_bind_of_ok value, Postfix.journal_evaluate, value,
        tokens_of_ofExpression form, List.append_assoc]
      rfl

end Expression

/-- **The journal tells the truth about an evaluation.** An expression without a postfix form
leaves no line. Else the form comes first, then the operations that were executed, and behind them
the value and the tokens, if there is a value. A text in postfix form leaves the same lines, without
the form and the tokens. -/
theorem Journal.tells_evaluations (s : Settings) :
    (∀ expression,
      let run := Expression.evaluate expression s
      let lines := run.journal.map fun r => (r.level, r.message)
      match Postfix.ofExpression expression s with
      | .error _ => lines = []
      | .ok ts => ∃ trace, List.Forall₂ Machine.Shows (Machine.applications ts) trace ∧
          lines = (.debug, "RPN de " ++ Text.quoted expression ++ " : " ++ Token.listText ts) ::
            trace ++
              match run.outcome with
              | .ok (value, _) =>
                [(.debug, "résultat: " ++ Number.plainText value),
                  (.debug, "jetons de " ++ Text.quoted expression ++ " : " ++
                    Token.listText (Lexer.ofString expression).scan.tokens)]
              | .error _ => []) ∧
    ∀ text,
      let run := Postfix.evaluateText text s
      let lines := run.journal.map fun r => (r.level, r.message)
      ∃ trace, List.Forall₂ Machine.Shows (Machine.applications (Postfix.ofText text)) trace ∧
        lines = trace ++
          match run.outcome with
          | .ok value => [(.debug, "résultat: " ++ Number.plainText value)]
          | .error _ => [] := by
  constructor
  · intro expression run lines
    cases form : Postfix.ofExpression expression s with
    | error e =>
      show lines = []
      simp only [lines, run, Expression.journal_evaluate_of_error form, List.map_nil]
    | ok ts =>
      refine ⟨_, Machine.forall₂_shows_journal_run ts, ?_⟩
      simp only [lines, run, Expression.journal_evaluate_of_ok form, List.map_cons, List.map_append]
      congr 1
      cases (Expression.evaluate expression s).outcome <;> rfl
  · intro text run lines
    refine ⟨_, Machine.forall₂_shows_journal_run (Postfix.ofText text), ?_⟩
    simp only [lines, run, Postfix.evaluateText_eq, Postfix.journal_evaluate, List.map_append]
    congr 1
    cases (Postfix.evaluate (Postfix.ofText text) s).outcome <;> rfl

/-- Two signs are executed and leave their lines; the third one finds a single operand, and neither
it nor a value is recorded. The expression without it has a value and leaves five lines. -/
theorem Journal.tells_evaluations_negated_product :
    let lines (journal : Journal) := journal.map fun r => (r.level, r.message)
    let signs := [[.number "2", .operator .negation],
      [.number "2", .operator .negation, .number "3", .operator (.binary .times)]]
    let trace := [(Level.trace, "~ -> -2 (pile: 1)"), (.trace, "* -> -6 (pile: 1)")]
    Machine.applications (Postfix.ofText "2 ~ 3 * +") = signs ∧
    List.Forall₂ Machine.Shows signs trace ∧
    lines (Postfix.evaluateText "2 ~ 3 * +" .standard).journal = trace ∧
    lines (Expression.evaluate "-2*3" .standard).journal =
      (.debug, "RPN de \"-2*3\" : 2 ~ 3 *") :: trace ++
        [(.debug, "résultat: -6"), (.debug, "jetons de \"-2*3\" : ~ 2 * 3")] := by
  intro lines signs trace
  have signed : Machine.applications (Postfix.ofText "2 ~ 3 * +") = signs := by decide +kernel
  have written : lines (Postfix.evaluateText "2 ~ 3 * +" .standard).journal = trace := by
    decide +kernel
  have failed : (Postfix.evaluateText "2 ~ 3 * +" .standard).outcome.isOk = false := by
    decide +kernel
  obtain ⟨told, shown, eq⟩ := (tells_evaluations .standard).2 "2 ~ 3 * +"
  cases outcome : (Postfix.evaluateText "2 ~ 3 * +" .standard).outcome with
  | ok value =>
    rw [outcome] at failed
    cases failed
  | error e =>
    rw [outcome, List.append_nil] at eq
    obtain rfl : told = trace := eq.symm.trans written
    rw [signed] at shown
    exact ⟨signed, shown, written, by decide +kernel⟩

end DeskCalculator
