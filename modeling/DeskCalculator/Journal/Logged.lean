import DeskCalculator.Journal.Record

/-!
# Runs that write to the journal

## Main definitions

* `Logged`: a run that writes records and may fail
* `Logged.record`, `Logged.ofExcept`, `Logged.fail`: the simplest runs

## Main results

* `Logged.outcome_bind`: the outcome does not depend on what was written
* `Logged.journal_bind_of_ok`, `Logged.journal_bind_of_error`: what a run in two parts writes
-/

namespace DeskCalculator

/-- A run that may fail. What it wrote before it failed stays written. -/
structure Logged (α : Type) where
  journal : Journal
  outcome : Except Failure α

namespace Logged

variable {α β : Type}

/-- Writes one record. -/
def record (r : Record) : Logged Unit :=
  ⟨[r], .ok ()⟩

/-- A computation that writes nothing. -/
def ofExcept (x : Except Failure α) : Logged α :=
  ⟨[], x⟩

/-- Fails for a cause. -/
def fail (e : Failure) : Logged α :=
  ofExcept (.error e)

/-- Runs `f` on the result of `x`, if there is one. -/
def bind (x : Logged α) (f : α → Logged β) : Logged β :=
  match x.outcome with
  | .ok a =>
    let y := f a
    ⟨x.journal ++ y.journal, y.outcome⟩
  | .error e => ⟨x.journal, .error e⟩

instance : Monad Logged where
  pure a := ofExcept (.ok a)
  bind := bind

@[simp] theorem journal_record (r : Record) : (record r).journal = [r] := rfl

@[simp] theorem outcome_record (r : Record) : (record r).outcome = .ok () := rfl

@[simp] theorem journal_pure (a : α) : (pure a : Logged α).journal = [] := rfl

@[simp] theorem outcome_pure (a : α) : (pure a : Logged α).outcome = .ok a := rfl

@[simp] theorem journal_ofExcept (x : Except Failure α) : (ofExcept x).journal = [] := rfl

@[simp] theorem outcome_ofExcept (x : Except Failure α) : (ofExcept x).outcome = x := rfl

@[simp] theorem journal_fail (e : Failure) : (fail e : Logged α).journal = [] := rfl

@[simp] theorem outcome_fail (e : Failure) : (fail e : Logged α).outcome = .error e := rfl

/-- The outcome of a run does not depend on what was written. -/
@[simp] theorem outcome_bind (x : Logged α) (f : α → Logged β) :
    (x >>= f).outcome = x.outcome >>= fun a => (f a).outcome := by
  show (Logged.bind x f).outcome = _
  cases h : x.outcome <;> simp [Logged.bind, h, Bind.bind, Except.bind]

theorem journal_bind_of_ok {x : Logged α} {a : α} (h : x.outcome = .ok a) (f : α → Logged β) :
    (x >>= f).journal = x.journal ++ (f a).journal := by
  show (Logged.bind x f).journal = _
  simp [Logged.bind, h]

theorem journal_bind_of_error {x : Logged α} {e : Failure} (h : x.outcome = .error e)
    (f : α → Logged β) : (x >>= f).journal = x.journal := by
  show (Logged.bind x f).journal = _
  simp [Logged.bind, h]

end Logged

end DeskCalculator
