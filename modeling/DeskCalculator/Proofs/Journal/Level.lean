import DeskCalculator.Desk.Basic

/-!
# What a calculation records

A calculation writes down its steps for a reader who asks for details. In a journal without details
it leaves no trace, whether it comes to a value or fails.

## Main definitions

* `Record.IsDetail`: a fact below the level of information
* `Logged.Writes`: what all records of a run have in common

## Main results

* `Logged.Writes.bind`: a run in two parts writes what its parts write
* `EntryMode.writes_evaluate`: the evaluation of an entry writes details
* `Journal.upTo_info_append`: details do not show
-/

namespace DeskCalculator

/-- A fact of one of the two levels below information. -/
def Record.IsDetail (r : Record) : Prop :=
  r.level = .debug ∨ r.level = .trace

/-- All records of a run have the property `p`, whether it fails or not. -/
def Logged.Writes (p : Record → Prop) {α : Type} (x : Logged α) : Prop :=
  ∀ r ∈ x.journal, p r

/-! ## Runs in parts -/

namespace Logged.Writes

variable {p : Record → Prop} {α β : Type}

theorem ofExcept (x : Except Failure α) : (Logged.ofExcept x).Writes p :=
  List.forall_mem_nil p

theorem fail (e : Failure) : (Logged.fail e : Logged α).Writes p :=
  ofExcept (.error e)

theorem pure (a : α) : (Pure.pure a : Logged α).Writes p :=
  ofExcept (.ok a)

theorem record {r : Record} (h : p r) : (Logged.record r).Writes p :=
  List.forall_mem_singleton.mpr h

/-- A run in two parts writes what its parts write. -/
theorem bind {x : Logged α} {f : α → Logged β} (first : x.Writes p)
    (second : ∀ a, (f a).Writes p) : (x >>= f).Writes p := by
  cases run : x.outcome with
  | error e =>
    rwa [Writes, journal_bind_of_error run]
  | ok a =>
    rw [Writes, journal_bind_of_ok run, List.forall_mem_append]
    exact ⟨first, second a⟩

end Logged.Writes

/-! ## Calculations -/

open Logged

theorem Machine.writes_step (stack : List Float) (t : Token) :
    (step stack t).Writes Record.IsDetail := by
  cases t with
  | number literal =>
    simp only [step]
    split
    · exact .pure _
    · exact .fail _
  | _ =>
    refine .bind (.ofExcept _) fun op => ?_
    split
    · exact .bind (.record (.inr rfl)) fun _ => .pure _
    · exact .fail _

theorem Machine.writes_run (stack : List Float) (ts : List Token) :
    (run stack ts).Writes Record.IsDetail := by
  induction ts generalizing stack with
  | nil => exact .pure stack
  | cons t ts ih => exact .bind (writes_step stack t) ih

theorem Postfix.writes_evaluate (ts : Postfix) (s : Settings) :
    (evaluate ts s).Writes Record.IsDetail := by
  refine .bind (Machine.writes_run [] ts) fun stack => .bind (.ofExcept _) fun value => ?_
  exact .bind (.record (.inl rfl)) fun _ => .pure value

theorem Postfix.writes_evaluateText (text : String) (s : Settings) :
    (evaluateText text s).Writes Record.IsDetail := by
  simp only [evaluateText]
  split
  · exact .fail .noExpression
  · exact writes_evaluate _ s

theorem Expression.writes_evaluate (expression : String) (s : Settings) :
    (evaluate expression s).Writes Record.IsDetail := by
  have converted : (toPostfix expression s).Writes Record.IsDetail :=
    .bind (.ofExcept _) fun ts => .bind (.record (.inl rfl)) fun _ => .pure ts
  refine .bind converted fun ts => ?_
  split
  · exact .fail .noExpression
  · refine .bind (Postfix.writes_evaluate ts s) fun value => .bind (.ofExcept _) fun read => ?_
    exact .bind (.record (.inl rfl)) fun _ => .pure _

/-- **The evaluation of an entry writes details**, in both modes. -/
theorem EntryMode.writes_evaluate (mode : EntryMode) (entry : String) (s : Settings) :
    (mode.evaluate entry s).Writes Record.IsDetail := by
  cases mode with
  | expression => exact Expression.writes_evaluate entry s
  | polish => exact .bind (Postfix.writes_evaluateText entry s) fun _ => .pure _

/-! ## The journal without details -/

/-- A journal without details shows nothing of a calculation before what follows. -/
theorem Journal.upTo_info_append {α : Type} {x : Logged α} (h : x.Writes Record.IsDetail)
    (j : Journal) : Journal.upTo (some .info) (x.journal ++ j) = j.upTo (some .info) := by
  have hidden : x.journal.upTo (some .info) = [] := by
    refine List.filter_eq_nil_iff.mpr fun r hr => ?_
    rcases h r hr with debug | trace
    · simp [debug, Level.rank]
    · simp [trace, Level.rank]
  rw [upTo, List.filter_append]
  exact congrArg (· ++ _) hidden

end DeskCalculator
