import DeskCalculator.Proofs.Evaluation.Strictness
import DeskCalculator.Proofs.Journal.Level

/-!
# The evaluation of an entry

The desk puts a question to the calculator: its entry, without the blanks around it, read in its
mode and under its settings. It shows the answer in place of what it showed before, except that the
last result stays beside a failure. Nothing else has a part in it, so the same question asked again
changes nothing.

## Main definitions

* `Desk.calculation`: the calculation that a desk asks for
* `Desk.SameQuestion`: what two desks have in common that ask for the same one

## Main results

* `Failure.message_ne_empty`: every failure has something to say
* `Desk.evaluate_of_ok`, `Desk.evaluate_of_error`: what a desk shows and records
* `Desk.SameQuestion.evaluate`: the same question has the same answer
* `Desk.evaluate_evaluate`: to ask again changes nothing
* `Desk.evaluate_shows_outcome`: what an evaluation changes, and what it depends on
-/

namespace DeskCalculator

theorem Number.LiteralFault.message_ne_empty (fault : LiteralFault) : fault.message ≠ "" := by
  cases fault <;> decide

/-- Every failure has something to say, as an empty sentence stands for no failure: what is quoted
may be empty, but each sentence ends in words of its own. -/
theorem Failure.message_ne_empty (e : Failure) : e.message ≠ "" := by
  have ends (start : String) {words : String} (h : words ≠ "") : start ++ words ≠ "" :=
    fun none => h (String.append_eq_empty_iff.mp none).2
  cases e with
  | unopenedBracket | unclosedBracket | noExpression => decide +kernel
  | badNumber literal => exact ends _ (Number.literalFault literal).message_ne_empty
  | _ => exact ends _ (by decide +kernel)

namespace Desk

/-- The calculation that a desk asks for. -/
def calculation (d : Desk) : Logged (Float × Working) :=
  d.mode.evaluate (Text.trim d.entry) d.settings

/-! ## One desk -/

section OneDesk

variable {d : Desk} {v : Float} {w : Working} {e : Failure}

theorem evaluate_of_ok (h : d.calculation.outcome = .ok (v, w)) :
    d.evaluate = (d.showResult (Display.text v d.settings.digits) w,
      d.calculation.journal ++
        [.answered (Text.trim d.entry) (Display.text v d.settings.digits)]) := by
  rw [calculation] at h ⊢
  simp only [evaluate, h]

theorem evaluate_of_error (h : d.calculation.outcome = .error e) :
    d.evaluate = (d.showFailure e.message,
      d.calculation.journal ++ [.refused (Text.trim d.entry) e]) := by
  rw [calculation] at h ⊢
  simp only [evaluate, h]

/-- A calculation comes to a value with its working, or fails. -/
theorem calculation_cases (d : Desk) :
    (∃ v w, d.calculation.outcome = .ok (v, w)) ∨ ∃ e, d.calculation.outcome = .error e := by
  cases d.calculation.outcome with
  | ok found => exact .inl ⟨found.1, found.2, rfl⟩
  | error e => exact .inr ⟨e, rfl⟩

/-- An evaluation leaves alone what is entered and set. -/
theorem evaluate_frame (d : Desk) :
    d.evaluate.1 = { d with
      result := d.evaluate.1.result
      failure := d.evaluate.1.failure
      working := d.evaluate.1.working
      focus := true } := by
  obtain ⟨v, w, found⟩ | ⟨e, failed⟩ := d.calculation_cases
  · rw [evaluate_of_ok found, showResult]
  · rw [evaluate_of_error failed, showFailure]

end OneDesk

/-! ## Two desks -/

/-- Two desks ask for the same calculation: their entries differ in the blanks around them at most,
and are read in the same mode and under the same settings. What they show may differ. -/
structure SameQuestion (c d : Desk) : Prop where
  entry : Text.trim c.entry = Text.trim d.entry
  mode : c.mode = d.mode
  settings : c.settings = d.settings

namespace SameQuestion

variable {c d : Desk} (same : SameQuestion c d)

include same

theorem calculation_eq : c.calculation = d.calculation := by
  rw [calculation, calculation, same.entry, same.mode, same.settings]

/-- **The same question has the same answer.** The result may differ only beside a failure, where
it is an older one. -/
theorem evaluate :
    c.evaluate.2 = d.evaluate.2 ∧ c.evaluate.1.failure = d.evaluate.1.failure ∧
      c.evaluate.1.working = d.evaluate.1.working ∧
      (d.evaluate.1.failure = "" → c.evaluate.1.result = d.evaluate.1.result) := by
  obtain ⟨v, w, found⟩ | ⟨e, failed⟩ := d.calculation_cases
  · rw [evaluate_of_ok found, evaluate_of_ok (same.calculation_eq ▸ found), same.calculation_eq,
      same.entry, same.settings]
    exact ⟨rfl, rfl, rfl, fun _ => rfl⟩
  · rw [evaluate_of_error failed, evaluate_of_error (same.calculation_eq ▸ failed),
      same.calculation_eq, same.entry]
    exact ⟨rfl, rfl, rfl, fun none => absurd none e.message_ne_empty⟩

end SameQuestion

/-- An evaluation leaves the question as it was. -/
theorem sameQuestion_evaluate (d : Desk) : SameQuestion d.evaluate.1 d := by
  rw [evaluate_frame]
  exact ⟨rfl, rfl, rfl⟩

/-- **To ask again changes nothing**, and records the same. -/
theorem evaluate_evaluate (d : Desk) : d.evaluate.1.evaluate = d.evaluate := by
  have same := d.sameQuestion_evaluate.calculation_eq
  obtain ⟨v, w, found⟩ | ⟨e, failed⟩ := d.calculation_cases
  · rw [evaluate_of_ok (same ▸ found), same, evaluate_of_ok found]
    rfl
  · rw [evaluate_of_error (same ▸ failed), same, evaluate_of_error failed]
    rfl

/-! ## What is shown and recorded -/

/-- **What an evaluation shows.** It leaves entry, mode and settings alone and asks for the focus. A
failure takes away the working and keeps the last result; a value replaces what was shown. A journal
without details receives one record, which says what is shown. All this depends on the entry without
the blanks around it, the mode and the settings alone, and happens once. -/
theorem evaluate_shows_outcome (d : Desk) :
    let after := d.evaluate.1
    let news := (d.evaluate.2.upTo (some .info)).map fun r => (r.level, r.message)
    (after.entry = d.entry ∧ after.mode = d.mode ∧ after.settings = d.settings ∧
      after.startSettings = d.startSettings ∧ after.focus = true) ∧
    (∀ e, (d.mode.evaluate (Text.trim d.entry) d.settings).outcome = .error e →
      after.result = d.result ∧ after.failure = e.message ∧ after.failure ≠ "" ∧
        after.working = {} ∧
        news = [(.warn, Text.quoted (Text.trim d.entry) ++ " : " ++ after.failure)]) ∧
    (∀ v w, (d.mode.evaluate (Text.trim d.entry) d.settings).outcome = .ok (v, w) →
      after.failure = "" ∧ after.working = w ∧
      ∃ answer, answer = Display.text v d.settings.digits ∧ after.result = "= " ++ answer ∧
        news = [(.info, Text.quoted (Text.trim d.entry) ++ " = " ++ answer)]) ∧
    (∀ c, SameQuestion c d →
      c.evaluate.2 = d.evaluate.2 ∧ c.evaluate.1.failure = after.failure ∧
        c.evaluate.1.working = after.working ∧
        (after.failure = "" → c.evaluate.1.result = after.result)) ∧
    after.evaluate = d.evaluate := by
  intro after news
  have details : d.calculation.Writes Record.IsDetail := d.mode.writes_evaluate _ _
  refine ⟨?frame, fun e failed => ?failure, fun v w found => ?value, fun c same => same.evaluate,
    d.evaluate_evaluate⟩
  case frame =>
    rw [show after = _ from d.evaluate_frame]
    exact ⟨rfl, rfl, rfl, rfl, rfl⟩
  case failure =>
    simp only [after, news, evaluate_of_error failed, Journal.upTo_info_append details]
    exact ⟨rfl, rfl, e.message_ne_empty, rfl, rfl⟩
  case value =>
    simp only [after, news, evaluate_of_ok found, Journal.upTo_info_append details]
    exact ⟨rfl, rfl, _, rfl, rfl, rfl⟩

/-- Two numbers side by side: under the strict rules the older result stays, beside the failure that
a desk without a result shows as well; where values may be left over, the failure that was shown
gives way to a value. -/
theorem evaluate_shows_outcome_two_numbers :
    let answered : Desk := { start .strict with
      entry := " 2 3 ", result := "= 11", working := { tokens := "11", polish := "11" } }
    let fresh : Desk := { start .strict with entry := "2 3" }
    let loose : Desk := { start .standard with
      entry := "2 3\n", failure := Failure.message .unclosedBracket }
    let sentence := Failure.message (.leftoverValues 2)
    (Expression.evaluate "2 3" .strict).outcome = .error (.leftoverValues 2) ∧
    answered.evaluate.1.result = "= 11" ∧ answered.evaluate.1.working = {} ∧
    answered.evaluate.1.failure = sentence ∧
    (answered.evaluate.2.upTo (some .info)).map (fun r => (r.level, r.message)) =
      [(.warn, Text.quoted "2 3" ++ " : " ++ sentence)] ∧
    SameQuestion fresh answered ∧ fresh.evaluate.1.failure = sentence ∧
    ∃ v, (Expression.evaluate "2 3" .standard).outcome =
        .ok (v, Expression.working "2 3" [.number "2", .number "3"]) ∧
      loose.evaluate.1.result = "= " ++ Display.text v 10 ∧ loose.evaluate.1.failure = "" ∧
      loose.evaluate.1.evaluate = loose.evaluate := by
  intro answered fresh loose sentence
  obtain ⟨x, two⟩ : ∃ x, Number.readFloat? "2" = some x :=
    Option.isSome_iff_exists.mp (by decide +kernel)
  obtain ⟨y, three⟩ : ∃ y, Number.readFloat? "3" = some y :=
    Option.isSome_iff_exists.mp (by decide +kernel)
  have read : (Lexer.ofString "2 3").scan = ⟨[.number "2", .number "3"], none⟩ := by
    decide +kernel
  have failed : (Expression.evaluate "2 3" .strict).outcome = .error (.leftoverValues 2) :=
    Expression.outcome_evaluate_numbers_of_strict read two three rfl
  have found : (Expression.evaluate "2 3" .standard).outcome = _ :=
    Expression.outcome_evaluate_numbers read two three rfl
  have trimmed : Text.trim answered.entry = "2 3" := by decide +kernel
  have same : SameQuestion fresh answered := ⟨by decide +kernel, rfl, rfl⟩
  obtain ⟨-, onFailure, -, onSame, -⟩ := evaluate_shows_outcome answered
  obtain ⟨kept, said, -, gone, warned⟩ :=
    onFailure (.leftoverValues 2) (by rw [trimmed]; exact failed)
  rw [said, trimmed] at warned
  obtain ⟨-, -, onValue, -, again⟩ := evaluate_shows_outcome loose
  have trimmed' : Text.trim loose.entry = "2 3" := by decide +kernel
  obtain ⟨silent, -, _, rfl, shown, -⟩ := onValue y _ (by rw [trimmed']; exact found)
  exact ⟨failed, kept, gone, said, warned, same, (onSame fresh same).2.1.trans said,
    y, found, shown, silent, again⟩

end Desk

end DeskCalculator
