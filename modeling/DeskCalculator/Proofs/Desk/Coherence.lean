import DeskCalculator.Proofs.Desk.Invariant

/-!
# What the desk shows

A working is shown beside the result that it led to, and beside no failure. The user may go on
editing, change the mode and the settings, or clear the entry: as long as the working is there, its
postfix form recomputes to the result on display.

## Main definitions

* `Desk.IsCoherent`: the desk shows a working only beside its result

## Main results

* `EntryMode.outcome_evaluateText_polish`: the written form of an entry has the value of the entry
* `Desk.IsCoherent.evaluate`: an evaluation shows a working beside its result
* `Desk.isInvariant_isCoherent`: no change of the desk shows it anywhere else
* `Window.shown_working_recomputes`: what is shown in a session
-/

namespace DeskCalculator

/-! ## The written form of an entry -/

theorem Postfix.ofText_listText {expression : String} {s : Settings} {ts : Postfix}
    (form : ofExpression expression s = .ok ts) : ofText (Token.listText ts) = ts :=
  Token.map_ofText_words_listText (isIsolable_of_ofExpression form)

/-- An entry in postfix form may have other blanks than its written form. -/
theorem Postfix.ofText_unwords_words (text : String) :
    ofText (Text.unwords (Text.words text)) = ofText text := by
  rw [ofText, ofText, Text.words_unwords_words]

/-- **The written form of an entry has the value of the entry**, in both modes, and also where the
rule for the stack is given up. -/
theorem EntryMode.outcome_evaluateText_polish {mode : EntryMode} {entry : String}
    {s r : Settings} {v : Float} {w : Working} (h : (mode.evaluate entry s).outcome = .ok (v, w))
    (rule : r.strictStack = false) : (Postfix.evaluateText w.polish r).outcome = .ok v := by
  cases mode with
  | expression =>
    obtain ⟨ts, form, -, value, rfl⟩ := Expression.outcome_evaluate_eq_ok_iff.mp h
    rw [Postfix.evaluateText_eq, Postfix.ofText_listText form]
    exact Postfix.outcome_evaluate_of_ok value rule
  | polish =>
    simp only [evaluate, Logged.outcome_bind, Logged.outcome_pure] at h
    cases value : (Postfix.evaluateText entry s).outcome with
    | error e => simp [value] at h
    | ok x =>
      simp only [value, Except.bind_ok, Except.ok.injEq, Prod.mk.injEq] at h
      obtain ⟨rfl, rfl⟩ := h
      rw [Postfix.evaluateText_eq] at value ⊢
      rw [Postfix.ofText_unwords_words]
      exact Postfix.outcome_evaluate_of_ok value rule

/-- Nothing is written down for nothing. -/
theorem Postfix.ne_empty_of_evaluateText {text : String} {r : Settings} {v : Float}
    (h : (evaluateText text r).outcome = .ok v) : text ≠ "" := by
  rintro rfl
  rw [evaluateText_eq, show ofText "" = [] from rfl, outcome_evaluate_nil] at h
  cases h

/-! ## One desk -/

namespace Desk

/-- The desk shows a working only beside its result, with a precision within the bound, and beside no
failure. -/
structure IsCoherent (d : Desk) : Prop where
  bounded : d.IsBounded
  no_failure : d.working ≠ {} → d.failure = ""
  recomputes : d.working ≠ {} → ∃ v n,
    (Postfix.evaluateText d.working.polish .lenient).outcome = .ok v ∧ n ≤ Settings.maxDigits ∧
      d.result = "= " ++ Display.text v n

/-- A desk without a working is coherent, whatever else it shows. -/
theorem IsBounded.isCoherent {d : Desk} (bounded : d.IsBounded) (nothing : d.working = {}) :
    d.IsCoherent :=
  ⟨bounded, fun shown => absurd nothing shown, fun shown => absurd nothing shown⟩

/-- An evaluation shows the working beside its result, or a failure. The rule for the stack may hold
now and be given up later, so the working is recomputed without it. -/
theorem IsCoherent.evaluate {d : Desk} (h : d.IsCoherent) : d.evaluate.1.IsCoherent := by
  have bounded := isInvariant_isBounded.evaluate h.bounded
  obtain ⟨v, w, found⟩ | ⟨e, failed⟩ := d.calculation_cases
  · have recomputes := EntryMode.outcome_evaluateText_polish found (r := .lenient) rfl
    rw [evaluate_of_ok found] at bounded ⊢
    exact ⟨bounded, fun _ => rfl,
      fun _ => ⟨v, d.settings.digits, recomputes, h.bounded.settings, rfl⟩⟩
  · rw [evaluate_of_error failed] at bounded ⊢
    exact bounded.isCoherent rfl

/-- **No change of a desk shows a working beside anything but its result**, if none is shown from
outside. -/
theorem isInvariant_isCoherent : IsInvariant (· = {}) IsCoherent where
  edit h _ _ _ := ⟨isInvariant_isBounded.edit h.bounded _ _ _, h.no_failure, h.recomputes⟩
  configure h _ digits _ :=
    ⟨isInvariant_isBounded.configure h.bounded digits _, h.no_failure, h.recomputes⟩
  dropWorking h _ _ _ := (isInvariant_isBounded.dropWorking h.bounded _ _ _).isCoherent rfl
  showResult h _ _ none := (isInvariant_isBounded.showResult h.bounded _ trivial).isCoherent none
  evaluate h := h.evaluate
  reset h := (isInvariant_isBounded.reset h.bounded).isCoherent rfl

theorem working_evaluate_of_ok {d : Desk} {v : Float} {w : Working}
    (h : (d.mode.evaluate (Text.trim d.entry) d.settings).outcome = .ok (v, w)) :
    d.evaluate.1.working = w := by
  rw [evaluate_of_ok h, showResult]

end Desk

/-! ## A session -/

namespace Window

variable {T : Toolkit}

/-- **What a session shows.** If a working is shown, then no failure is, and its postfix form has a
value, which the result shows with a precision within the bound, whatever has been entered and set
since. Results that are shown from outside come without a working. -/
theorem shown_working_recomputes {s : Settings} (bound : s.digits ≤ Settings.maxDigits)
    (steps : List Step)
    (plain : ∀ answer working, .showResult answer working ∈ steps → working = {}) :
    let d := ((start s : Window T).performAll steps).desk
    d.working ≠ {} →
      d.failure = "" ∧ d.working.polish ≠ "" ∧
      ∃ v n, (Postfix.evaluateText d.working.polish .lenient).outcome = .ok v ∧
        n ≤ Settings.maxDigits ∧ d.result = "= " ++ Display.text v n := by
  intro d shown
  have coherent : d.IsCoherent :=
    Desk.isInvariant_isCoherent.performAll ((Desk.isBounded_start bound).isCoherent rfl) steps plain
  obtain ⟨v, n, value, le, result⟩ := coherent.recomputes shown
  exact ⟨coherent.no_failure shown, Postfix.ne_empty_of_evaluateText value, v, n, value, le, result⟩

/-- The entry `2 3` has a value under the standard settings, which stays on display with its working
when the strict settings, under which it has none, are put in place. -/
theorem shown_working_recomputes_strict_later :
    let steps : List Step := [.showResult "11" {}, .setEntry "2 3", .evaluate,
      .setSettings ⟨.strict, by decide⟩, .setMode .polish]
    let d := ((start .standard : Window .plain).performAll steps).desk
    Settings.standard.digits ≤ Settings.maxDigits ∧
      (∀ answer working, .showResult answer working ∈ steps → working = {}) ∧
      d.working ≠ {} ∧ d.failure = "" ∧ d.working.polish ≠ "" ∧
      ∃ v n, (Postfix.evaluateText d.working.polish .lenient).outcome = .ok v ∧
        n ≤ Settings.maxDigits ∧ d.result = "= " ++ Display.text v n := by
  intro steps d
  obtain ⟨x, two⟩ : ∃ x, Number.readFloat? "2" = some x :=
    Option.isSome_iff_exists.mp (by decide +kernel)
  obtain ⟨y, three⟩ : ∃ y, Number.readFloat? "3" = some y :=
    Option.isSome_iff_exists.mp (by decide +kernel)
  have found : (Expression.evaluate "2 3" .standard).outcome =
      .ok (y, Expression.working "2 3" [.number "2", .number "3"]) :=
    Expression.outcome_evaluate_numbers (by decide +kernel) two three rfl
  have shown : d.working ≠ {} := by
    have trimmed : Text.trim "2 3" = "2 3" := by decide +kernel
    let entered : Desk := { (Desk.start .standard).showResult "11" {} with entry := "2 3" }
    have working : entered.evaluate.1.working = _ :=
      entered.working_evaluate_of_ok (by rw [trimmed]; exact found)
    show entered.evaluate.1.working ≠ {}
    rw [working]
    simp [Expression.working]
  have plain : ∀ answer working, .showResult answer working ∈ steps → working = {} := by
    simp [steps]
  exact ⟨by decide, plain, shown, shown_working_recomputes (by decide) steps plain shown⟩

end Window

end DeskCalculator
