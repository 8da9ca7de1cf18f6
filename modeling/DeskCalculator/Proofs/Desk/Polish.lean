import DeskCalculator.Proofs.Desk.Drawing
import DeskCalculator.Proofs.Desk.Evaluation
import Mathlib.Data.List.DropRight
import Mathlib.Data.List.SplitBy

/-!
# Typing a postfix form

In postfix form a space goes in front of what a key writes, unless a digit or a point is typed
behind another one. The window looks at the last character of the entry only. That is enough for a
whole row of keys: digits and points side by side write one number, every other key a word of its
own, and the space key nothing but a blank.

## Main definitions

* `PadKey.runs`: the keys that belong together
* `PadKey.polishText`, `PadKey.words`: the text and the words that a row of keys writes

## Main results

* `Desk.insertPiece_polishText`: what one more key does to the text of a row
* `PadKey.words_polishText`: the words of the text
* `Window.exists_desk_performAll`: a row of keys writes the entry
* `Window.words_of_keys`: what is typed, and what comes of it
-/

namespace DeskCalculator

/-! ## Rows of keys -/

namespace PadKey

/-- Whether a number is typed with a key. -/
def isNumeric : PadKey → Bool
  | digit _ | point => true
  | _ => false

/-- Two keys side by side belong together if both are part of a number. -/
def joins (a b : PadKey) : Bool :=
  a.isNumeric && b.isNumeric

/-- The keys that belong together: each longest run of digits and points, and each other key on its
own. -/
def runs (keys : List PadKey) : List (List PadKey) :=
  keys.splitBy joins

/-- What a run of keys writes. -/
def runText (run : List PadKey) : String :=
  String.join (run.map (piece .polish))

/-- What a row of keys writes in postfix form. -/
def polishText (keys : List PadKey) : String :=
  Text.unwords ((runs keys).map runText)

/-- The words that a row of keys writes: its runs, but for the space key. -/
def words (keys : List PadKey) : List String :=
  ((runs keys).filter (· ≠ [space])).map runText

/-! ### Single keys -/

/-- A key writes digits or points exactly if it is part of a number. -/
theorem piece_numeric (k : PadKey) :
    (k.piece .polish).toList.all Token.isNumeric = k.isNumeric ∧
      (k.piece .polish).toList.getLast?.any Token.isNumeric = k.isNumeric := by
  cases k with
  | digit d => revert d; decide
  | function f => cases f <;> decide
  | sign s => cases s <;> decide
  | _ => decide

theorem isWord_piece {k : PadKey} (solid : k ≠ space) : Text.IsWord (k.piece .polish) := by
  cases k with
  | digit d =>
    refine Text.isWord_of_all ?_ ?_ <;> revert d <;> decide
  | function f => cases f <;> exact Text.isWord_of_all (by decide) (by decide)
  | sign s => cases s <;> exact Text.isWord_of_all (by decide) (by decide)
  | space => exact absurd rfl solid
  | _ => exact Text.isWord_of_all (by decide) (by decide)

theorem piece_ne_nil (k : PadKey) : (k.piece .polish).toList ≠ [] := by
  by_cases space : k = .space
  · subst space
    decide
  · exact (isWord_piece space).ne_nil

/-! ### One more key -/

section Concat

variable {keys : List PadKey} {k : PadKey}

theorem runText_concat (run : List PadKey) (k : PadKey) :
    runText (run ++ [k]) = runText run ++ k.piece .polish := by
  simp [runText]

/-- A key that does not join the last one starts a run of its own. -/
theorem runs_concat (apart : keys.getLast?.any (joins · k) = false) :
    runs (keys ++ [k]) = runs keys ++ [[k]] := by
  refine List.splitBy_append_cons [] fun a last => ?_
  rw [Option.mem_def.mp last] at apart
  exact apart

/-- A number behind keys that do not end in one is a run of its own. -/
theorem runs_append_number {number : List PadKey} (stop : keys.getLast?.any isNumeric = false)
    (numeric : ∀ b ∈ number, b.isNumeric = true) (ne : number ≠ []) :
    runs (keys ++ number) = runs keys ++ [number] := by
  have chain : number.IsChain fun a b => joins a b = true :=
    List.Pairwise.isChain (List.pairwise_of_forall_mem_list fun a ha b hb => by
      simp [joins, numeric a ha, numeric b hb])
  rw [runs, List.splitBy_append, List.splitBy_of_isChain ne chain, runs]
  intro a last b _
  rw [Option.mem_def.mp last] at stop
  rw [joins, show a.isNumeric = false from stop, Bool.false_and]

/-- A key that joins the last one belongs to the last run. -/
theorem exists_runs_concat (together : keys.getLast?.any (joins · k) = true) :
    ∃ before run, runs keys = before ++ [run] ∧ runs (keys ++ [k]) = before ++ [run ++ [k]] := by
  obtain ⟨a, last, both⟩ := (Option.any_eq_true _ _).mp together
  rw [joins, Bool.and_eq_true] at both
  let front := keys.rdropWhile isNumeric
  let number := keys.rtakeWhile isNumeric
  have row : front ++ number = keys := List.rdropWhile_append_rtakeWhile
  have stop : front.getLast?.any isNumeric = false := by
    rw [Option.any_eq_false]
    intro b hb
    have ne : front ≠ [] := by
      intro none
      rw [none] at hb
      cases hb
    rw [List.getLast?_eq_some_getLast ne, Option.some.injEq] at hb
    exact hb ▸ Bool.eq_false_iff.mpr (List.rdropWhile_last_not isNumeric keys ne)
  have numeric : ∀ b ∈ number, b.isNumeric = true := fun b => List.mem_rtakeWhile_imp
  have ne : number ≠ [] := by
    obtain ⟨ks, rfl⟩ := List.getLast?_eq_some_iff.mp last
    simp [number, List.rtakeWhile_concat_pos, both.1]
  refine ⟨runs front, number, ?_, ?_⟩
  · rw [← row]
    exact runs_append_number stop numeric ne
  · have more : ∀ b ∈ number ++ [k], b.isNumeric = true := by
      intro b hb
      rcases List.mem_append.mp hb with hb | hb
      · exact numeric b hb
      · exact List.mem_singleton.mp hb ▸ both.2
    rw [← row, List.append_assoc]
    exact runs_append_number stop more (by simp)

theorem runs_ne_nil (ne : keys ≠ []) : runs keys ≠ [] :=
  List.splitBy_ne_nil.mpr ne

theorem polishText_singleton (k : PadKey) : polishText [k] = k.piece .polish := by
  simp [polishText, runs, List.splitBy, List.splitBy.loop, runText, Text.unwords]

/-- A key that starts a run is divided from what is there. -/
theorem polishText_concat (ne : keys ≠ []) (apart : keys.getLast?.any (joins · k) = false) :
    polishText (keys ++ [k]) = polishText keys ++ " " ++ k.piece .polish := by
  have single : runText [k] = k.piece .polish := by simp [runText]
  rw [polishText, runs_concat apart, List.map_append, List.map_singleton, single, Text.unwords,
    String.intercalate_append_of_ne_nil (by simpa using runs_ne_nil ne) (by simp),
    String.intercalate_singleton]
  rfl

/-- A key that joins the last run is written behind it. -/
theorem polishText_concat_of_joins (together : keys.getLast?.any (joins · k) = true) :
    polishText (keys ++ [k]) = polishText keys ++ k.piece .polish := by
  obtain ⟨before, run, runs_keys, runs_more⟩ := exists_runs_concat together
  rw [polishText, polishText, runs_keys, runs_more, List.map_append, List.map_append,
    List.map_singleton, List.map_singleton, runText_concat]
  by_cases first : before.map runText = []
  · rw [first]
    simp [Text.unwords]
  · simp [Text.unwords, String.intercalate_append_of_ne_nil first, String.append_assoc]

/-- Whatever stands in front, the text ends with what the last key writes. -/
theorem exists_polishText_concat (keys : List PadKey) (k : PadKey) :
    ∃ front, polishText (keys ++ [k]) = front ++ k.piece .polish := by
  by_cases first : keys = []
  · exact ⟨"", by rw [first, List.nil_append, polishText_singleton, String.empty_append]⟩
  · cases together : keys.getLast?.any (joins · k) with
    | true => exact ⟨_, polishText_concat_of_joins together⟩
    | false => exact ⟨_, polishText_concat first together⟩

/-- The last character tells whether the last key was part of a number. -/
theorem getLast?_polishText (keys : List PadKey) :
    (polishText keys).toList.getLast?.any Token.isNumeric = keys.getLast?.any isNumeric := by
  rcases List.eq_nil_or_concat keys with rfl | ⟨keys, k, rfl⟩
  · rfl
  · obtain ⟨front, text⟩ := exists_polishText_concat keys k
    rw [List.concat_eq_append, text, String.toList_append,
      List.getLast?_append_of_ne_nil _ k.piece_ne_nil, k.piece_numeric.2, List.getLast?_concat]
    rfl

theorem polishText_eq_empty_iff : polishText keys = "" ↔ keys = [] := by
  constructor
  · intro empty
    rcases List.eq_nil_or_concat keys with rfl | ⟨keys, k, rfl⟩
    · rfl
    · obtain ⟨front, text⟩ := exists_polishText_concat keys k
      rw [List.concat_eq_append, text, String.append_eq_empty_iff] at empty
      exact absurd (String.toList_eq_nil_iff.mpr empty.2) k.piece_ne_nil
  · rintro rfl
    rfl

end Concat

/-! ### The words of a row -/

section Words

variable {keys run : List PadKey}

/-- A space key is a run of its own. -/
theorem space_not_mem_of_mem_runs (mem : run ∈ runs keys) (other : run ≠ [space]) :
    space ∉ run := by
  intro inside
  obtain ⟨u, v, rfl⟩ := List.append_of_mem inside
  have chain := List.isChain_append.mp (List.isChain_of_mem_splitBy mem)
  rcases List.eq_nil_or_concat u with rfl | ⟨u, a, rfl⟩
  · rcases v with _ | ⟨b, v⟩
    · exact other rfl
    · cases chain.2.1.rel
  · have together := chain.2.2 a (by simp) space rfl
    rw [joins, Bool.and_eq_true] at together
    cases together.2

theorem isWord_runText (ne : run ≠ []) (solid : space ∉ run) : Text.IsWord (runText run) := by
  induction run using List.reverseRecOn with
  | nil => exact absurd rfl ne
  | append_singleton run k ih =>
    rw [List.mem_append, not_or] at solid
    have last : Text.IsWord (k.piece .polish) := by
      apply isWord_piece
      rintro rfl
      exact solid.2 (List.mem_singleton_self _)
    rw [runText_concat]
    by_cases first : run = []
    · rw [first]
      simpa [runText] using last
    · have front := ih first solid.1
      refine ⟨by simp [front.ne_nil], fun c hc => ?_⟩
      rw [String.toList_append, List.mem_append] at hc
      rcases hc with hc | hc
      exacts [front.not_blank c hc, last.not_blank c hc]

/-- **The words of the text** are those of the runs, and a space key gives none. -/
theorem words_polishText (keys : List PadKey) : Text.words (polishText keys) = words keys := by
  have word_of_run : ∀ run ∈ runs keys,
      Text.words (runText run) = if run ≠ [space] then [runText run] else [] := by
    intro run mem
    split
    · next solid =>
      exact Text.words_of_isWord (isWord_runText (List.ne_nil_of_mem_splitBy mem)
        (space_not_mem_of_mem_runs mem solid))
    · next blank =>
      rw [not_not.mp blank]
      rfl
  rw [polishText, Text.words_unwords_eq_flatMap, List.flatMap_map, List.flatMap_congr word_of_run,
    words]
  induction runs keys with
  | nil => rfl
  | cons run rest ih => by_cases blank : run = [space] <;> simp_all

end Words

end PadKey

/-! ## The entry -/

namespace Desk

/-- **One more key.** What the window adds to the text of a row makes the text of the longer row. -/
theorem insertPiece_polishText (keys : List PadKey) (k : PadKey) :
    insertPiece .polish (PadKey.polishText keys) (k.piece .polish) =
      PadKey.polishText (keys ++ [k]) := by
  -- the window sees the text only, which tells whether the last key was part of a number
  have joins : ((k.piece .polish).toList.all Token.isNumeric &&
      (PadKey.polishText keys).toList.getLast?.any Token.isNumeric) =
        keys.getLast?.any (PadKey.joins · k) := by
    rw [k.piece_numeric.1, PadKey.getLast?_polishText]
    cases keys.getLast? <;> simp [PadKey.joins, Bool.and_comm]
  simp only [insertPiece, joins]
  by_cases first : keys = []
  · subst first
    rw [if_neg fun apart => apart.2.1 rfl, List.nil_append, PadKey.polishText_singleton]
    exact String.empty_append
  · cases together : keys.getLast?.any (PadKey.joins · k) with
    | true => rw [if_neg (by simp), PadKey.polishText_concat_of_joins together]
    | false =>
      have some_text := PadKey.polishText_eq_empty_iff.not.mpr first
      rw [if_pos ⟨trivial, some_text, rfl⟩, PadKey.polishText_concat first together]

/-- In postfix form a desk evaluates the words of its entry. -/
theorem outcome_calculation_polish {d : Desk} (mode : d.mode = .polish) :
    d.calculation.outcome =
      (Postfix.evaluate ((Text.words d.entry).map Token.ofText) d.settings).outcome.map fun v =>
        (v, { tokens := ""
              polish := Text.unwords (Text.words d.entry)
              note := "Saisie RPN : évaluée directement sur la pile." }) := by
  simp only [calculation, mode, EntryMode.evaluate, Logged.outcome_bind, Logged.outcome_pure,
    Postfix.evaluateText_eq, Postfix.ofText, Text.words_trim]
  cases (Postfix.evaluate ((Text.words d.entry).map Token.ofText) d.settings).outcome <;> rfl

end Desk

namespace Window

variable {T : Toolkit} {w : Window T}

/-- The keys of the pad write the entry, whatever happens to the precision in their frames. -/
theorem exists_desk_performAll (empty : w.desk.entry = "") (mode : w.desk.mode = .polish)
    (keys : List PadKey) :
    ∃ n focus, (w.performAll (keys.map fun k => .click k.label)).desk =
      { w.desk with entry := PadKey.polishText keys, settings.digits := n, focus } := by
  induction keys using List.reverseRecOn with
  | nil =>
    refine ⟨w.desk.settings.digits, w.desk.focus, ?_⟩
    rw [show PadKey.polishText [] = w.desk.entry from empty.symm]
    rfl
  | append_singleton keys k ih =>
    obtain ⟨_, _, typed⟩ := ih
    obtain ⟨n, focus, clicked⟩ :=
      (w.performAll (keys.map fun k => .click k.label)).exists_desk_frame_click (.pad k)
    refine ⟨n, focus, ?_⟩
    rw [List.map_append, performAll, List.foldl_append]
    show ((w.performAll (keys.map fun k => .click k.label)).perform (.click k.label)).1.desk = _
    rw [perform_key, clicked, typed]
    simp only [Desk.activate, Desk.insert, mode, Desk.insertPiece_polishText]

/-- A click on a key leaves the settings alone if the precision needs no attention. -/
theorem AtRest.perform_key (rest : w.AtRest) (k : PadKey) :
    (w.perform (.click k.label)).1.AtRest ∧
      (w.perform (.click k.label)).1.desk.settings = w.desk.settings := by
  rw [Window.perform_key]
  have drawn : ((w.drawEntry (.click (.pad k))).activate (.pad k)).AtRest := rest
  have same : w.frame (.click (.pad k)) = (w.drawEntry (.click (.pad k))).activate (.pad k) :=
    drawn.drawPrecision rfl
  rw [same]
  exact ⟨drawn, rfl⟩

theorem AtRest.settings_performAll (rest : w.AtRest) (keys : List PadKey) :
    (w.performAll (keys.map fun k => .click k.label)).desk.settings = w.desk.settings := by
  induction keys generalizing w with
  | nil => rfl
  | cons k keys ih =>
    obtain ⟨rest', same⟩ := rest.perform_key k
    exact (ih rest').trans same

/-- **What is typed in postfix form.** Keys that are clicked one after the other write the words of
the row: a number for each longest run of digits and points, and a word for each other key but the
space key. A click on the equals sign then shows what the tokens of these words come to. The keys
change no settings, unless the precision is beyond its bounds while its field is shown. -/
theorem words_of_keys (empty : w.desk.entry = "") (mode : w.desk.mode = .polish)
    (keys : List PadKey) :
    let typed := w.performAll (keys.map fun k => .click k.label)
    let after := (typed.perform (.click Control.equals.label)).1.desk
    let run := Postfix.evaluate ((PadKey.words keys).map Token.ofText) w.desk.settings
    Text.words typed.desk.entry = PadKey.words keys ∧
    typed.desk.calculation.outcome.map Prod.fst = run.outcome ∧
    (∀ v, run.outcome = .ok v →
      after.result = "= " ++ Display.text v typed.desk.settings.digits ∧ after.failure = "" ∧
        after.working.polish = Text.unwords (PadKey.words keys)) ∧
    (∀ e, run.outcome = .error e →
      after.result = w.desk.result ∧ after.failure = e.message ∧ after.working = {}) ∧
    (w.AtRest → typed.desk.settings = w.desk.settings) := by
  intro typed after run
  obtain ⟨n, focus, desk⟩ := exists_desk_performAll empty mode keys
  have words : Text.words typed.desk.entry = PadKey.words keys := by
    rw [desk]
    exact PadKey.words_polishText keys
  have outcome := Desk.outcome_calculation_polish (d := typed.desk) (by rw [desk, mode])
  rw [words, show Postfix.evaluate _ typed.desk.settings = run by rw [desk]; rfl] at outcome
  let asked : Desk := { typed.desk with focus := false }
  obtain ⟨_, _, shown⟩ : ∃ n focus, after =
      { asked.evaluate.1 with settings.digits := n, focus } := by
    simp only [after, perform_click_label (w := typed) (c := .equals) (.inr rfl)]
    exact typed.exists_desk_frame_click .equals
  refine ⟨words, ?question, fun v value => ?value, fun e failed => ?failure, fun rest =>
    rest.settings_performAll keys⟩
  case question =>
    rw [outcome]
    cases run.outcome <;> rfl
  case value =>
    have found := outcome.trans (congrArg _ value)
    rw [shown, Desk.evaluate_of_ok (d := asked) found]
    exact ⟨rfl, rfl, rfl⟩
  case failure =>
    have refused := outcome.trans (congrArg _ failed)
    rw [shown, Desk.evaluate_of_error (d := asked) refused]
    refine ⟨?_, rfl, rfl⟩
    show typed.desk.result = _
    rw [desk]

/-- A number with a point, a blank, a number beside it, and names side by side: `1.5`, the space key,
`2`, `pi`, `log`, `!`. A bracket is a word too, but stands for no operation. -/
theorem words_of_keys_two_numbers :
    let w : Window .plain := ((start .strict).perform (.click (Control.mode .polish).label)).1
    let keys : List PadKey := [.digit 1, .point, .digit 5, .space, .digit 2, .pi, .function .log,
      .factorial]
    let typed := w.performAll (keys.map fun k => .click k.label)
    w.desk.entry = "" ∧ w.desk.mode = .polish ∧ typed.desk.entry = "1.5   2 pi log !" ∧
      Text.words typed.desk.entry = ["1.5", "2", "pi", "log", "!"] ∧
      ((w.performAll ([PadKey.opening].map fun k => .click k.label)).perform
        (.click Control.equals.label)).1.desk.failure = Failure.message (.unknownSymbol "(") ∧
      w.AtRest ∧ typed.desk.settings = .strict := by
  intro w keys typed
  have empty : w.desk.entry = "" := by decide +kernel
  have mode : w.desk.mode = .polish := by decide +kernel
  have strict : w.desk.settings = .strict := by decide +kernel
  have closed : w.settingsOpen = false := by decide +kernel
  have rest : w.AtRest := fun shown => absurd (closed.symm.trans shown) Bool.false_ne_true
  -- what is left is an instance of the general results, in which nothing is to be computed of `w`
  clear_value w
  obtain ⟨_, _, desk⟩ := exists_desk_performAll empty mode keys
  have entry : typed.desk.entry = "1.5   2 pi log !" := by
    rw [desk]
    show PadKey.polishText keys = _
    decide +kernel
  obtain ⟨words, -, -, -, settings⟩ := words_of_keys empty mode keys
  obtain ⟨-, -, -, fails, -⟩ := words_of_keys empty mode [.opening]
  have token : (PadKey.words [.opening]).map Token.ofText = [.opening] := by decide +kernel
  rw [token] at fails
  exact ⟨empty, mode, entry, words.trans (by decide +kernel), (fails (.unknownSymbol "(") rfl).2.1,
    rest, (settings rest).trans strict⟩

end Window

end DeskCalculator
