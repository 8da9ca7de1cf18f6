import DeskCalculator.Desk.Session
import Mathlib.Data.List.Nodup

/-!
# Frames

A click names its control by a label. No two controls have the same label, so a label that is shown
always means the control that bears it. The frame in which a control works hands over the focus that
was pending before, and may bring the precision within its bounds afterwards.

## Main definitions

* `Settings.FitsField`: the field for the precision shows a number within its bound
* `Window.AtRest`: that field has nothing to do

## Main results

* `Control.label_injective`: a label belongs to one control
* `Window.perform_click_label`: a click on a label that is shown activates its control
* `Window.AtRest.drawPrecision`, `Window.atRest_drawPrecision`: a number within its bounds stays as
  it is, and the field brings it there
* `Window.exists_desk_frame_click`: what is done besides in the frame of a click
-/

namespace DeskCalculator

theorem PadKey.mem_all (k : PadKey) : k ∈ all := by
  cases k with
  | sign s => cases s <;> simp [all]
  | function f => simp [all, NamedFunction.mem_all]
  | _ => simp [all]

namespace Control

theorem mem_all (c : Control) : c ∈ all := by
  cases c with
  | pad k => simp [all, PadKey.mem_all]
  | mode m => cases m <;> simp [all]
  | _ => simp [all]

theorem nodup_labels : (all.map label).Nodup := by
  decide +kernel

theorem label_injective : Function.Injective label :=
  fun c d h => List.inj_on_of_nodup_map nodup_labels (mem_all c) (mem_all d) h

end Control

/-- The field for the precision, which has 32 bits, shows a number within its bound. -/
def Settings.FitsField (s : Settings) : Prop :=
  s.digits.toUInt32.toNat ≤ maxDigits

instance (s : Settings) : Decidable s.FitsField :=
  inferInstanceAs (Decidable (_ ≤ _))

theorem Settings.fitsField_of_le {s : Settings} (h : s.digits ≤ maxDigits) : s.FitsField :=
  Nat.le_trans (Nat.mod_le _ _) h

namespace Window

variable {T : Toolkit} {w : Window T} {c : Control} {input : Input}

/-! ## Labels -/

theorem control?_label (shown : w.settingsOpen = true ∨ c.isSetting = false) :
    w.control? c.label = some c := by
  cases found : w.control? c.label with
  | none =>
    have missed := List.find?_eq_none.mp found c c.mem_all
    simp at missed
    rcases shown with h | h <;> simp [h] at missed
  | some d =>
    have label := List.find?_some found
    simp at label
    rw [Control.label_injective label.1]

/-- A click on a label that is shown activates its control. -/
theorem perform_click_label (shown : w.settingsOpen = true ∨ c.isSetting = false) :
    w.perform (.click c.label) = (w.frame (.click c), .done) := by
  rw [perform, click, control?_label shown]

theorem perform_key (w : Window T) (k : PadKey) :
    w.perform (.click k.label) = (w.frame (.click (.pad k)), .done) :=
  perform_click_label (c := .pad k) (.inr rfl)

/-! ## The two fields -/

theorem desk_drawEntry_eq (w : Window T) (input : Input) :
    (w.drawEntry input).desk =
      if input = .key .enter ∧ T.hasFocus (w.drawEntry input).memory then
        { w.desk with focus := false }.evaluate.1
      else { w.desk with focus := false } :=
  rfl

/-- Unless the key that evaluates is pressed, the entry field takes the focus and nothing else. -/
theorem desk_drawEntry (other : input ≠ .key .enter) :
    (w.drawEntry input).desk = { w.desk with focus := false } := by
  rw [desk_drawEntry_eq, if_neg fun h => other h.1]

/-- The field for the precision has nothing to do: it is not drawn, or the toolkit finds the number
in it within its bounds. -/
def AtRest (w : Window T) : Prop :=
  w.settingsOpen = true → T.Lawful ∧ w.desk.settings.FitsField

/-- A number within its bounds stays as it is. -/
theorem AtRest.drawPrecision (rest : w.AtRest) (alone : input.number? = none) :
    w.drawPrecision input = w := by
  rw [Window.drawPrecision]
  split
  · next shown =>
    obtain ⟨lawful, fits⟩ := rest shown
    apply if_pos
    apply UInt32.toNat_inj.mp
    rw [alone, lawful.toNat_drawNumber, Option.getD_none, Int.toNat_natCast]
    exact Nat.min_eq_left fits
  · rfl

/-- The field for the precision sets the precision, or does nothing. -/
theorem drawPrecision_cases (w : Window T) (input : Input) :
    w.drawPrecision input = w ∨ ∃ n, w.drawPrecision input = w.mapDesk fun d => d.setDigits n := by
  simp only [Window.drawPrecision]
  split
  · split
    · exact .inl rfl
    · exact .inr ⟨_, rfl⟩
  · exact .inl rfl

/-! ## The frame of a click -/

theorem desk_frame_click (w : Window T) (c : Control) :
    (w.drawEntry (.click c)).desk.activate c = Desk.activate { w.desk with focus := false } c := by
  rw [desk_drawEntry (by simp)]

/-- **The frame of a click** does what the control does, to a desk whose focus is not pending, and
then at most sets the precision. -/
theorem exists_desk_frame_click (w : Window T) (c : Control) :
    ∃ n focus, (w.frame (.click c)).desk =
      { Desk.activate { w.desk with focus := false } c with settings.digits := n, focus } := by
  rw [← desk_frame_click]
  obtain alone | ⟨n, set⟩ :=
    ((w.drawEntry (.click c)).activate c).drawPrecision_cases (.click c)
  · exact ⟨_, _, congrArg desk alone⟩
  · exact ⟨_, true, congrArg desk set⟩

end Window

end DeskCalculator
