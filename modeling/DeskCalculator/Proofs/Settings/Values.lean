import DeskCalculator.Proofs.Number.Word
import DeskCalculator.Proofs.Text.Wrapped
import DeskCalculator.Settings.Environment
import Mathlib.Algebra.Group.Nat.Defs

/-!
# What the variables say

The variable for the strict rules says yes or no in three ways each, the one for the precision says
a numeral; blanks around a value do not count. What a variable says decides its own part of the
settings. A value that says nothing leaves that part as it is by default, and is recorded.

## Main definitions

* `Settings.Affirms`, `Settings.Denies`: the values that say yes, and those that say no
* `Settings.States`: the values that say a number

## Main results

* `Settings.states_iff`: the numbers that are said are those that are read
* `Settings.ofValues_reads`: the settings, and the records, under the values of the variables
-/

namespace DeskCalculator.Settings

/-- A value says yes. -/
def Affirms (value : String) : Prop :=
  ∃ word ∈ ["1", "true", "oui"], Text.Says value word

/-- A value says no. -/
def Denies (value : String) : Prop :=
  ∃ word ∈ ["0", "false", "non"], Text.Says value word

/-- A value says a number that fits into 64 bits. -/
def States (value : String) (n : Nat) : Prop :=
  ∃ core, Text.Wraps value core ∧ Number.IsNumeral core n ∧ n < 2 ^ 64

variable {value : String} {n : Nat} {s : Settings} {strict digits : Option String}

/-! ## The strict rules -/

/-- A value says one of some words if that is what trimming and lower case make of it. -/
theorem exists_says_iff {words : List String}
    (solid : ∀ word ∈ words, word.toList ≠ [] ∧ word.toList.all (!Text.isBlank ·) = true) :
    (∃ word ∈ words, Text.Says value word) ↔ Text.lowerCase (Text.trim value) ∈ words := by
  have same : ∀ word ∈ words, Text.Says value word ↔ Text.lowerCase (Text.trim value) = word := by
    intro word mem
    obtain ⟨ne, all⟩ := solid word mem
    exact (Text.lowerCase_trim_eq_iff_says (Text.isWord_of_all ne all)).symm
  constructor
  · rintro ⟨word, mem, said⟩
    rwa [(same word mem).mp said]
  · intro mem
    exact ⟨_, mem, (same _ mem).mpr rfl⟩

theorem affirms_iff :
    Affirms value ↔ Text.lowerCase (Text.trim value) ∈ ["1", "true", "oui"] :=
  exists_says_iff (by decide)

theorem denies_iff :
    Denies value ↔ Text.lowerCase (Text.trim value) ∈ ["0", "false", "non"] :=
  exists_says_iff (by decide)

theorem rulesOf?_eq (word : String) :
    rulesOf? word = if word ∈ ["1", "true", "oui"] then some Settings.strict
      else if word ∈ ["0", "false", "non"] then some lenient else none := by
  simp only [rulesOf?, List.mem_cons, List.not_mem_nil, or_false]

theorem withRules_of_affirms (yes : Affirms value) :
    withRules (some value) = (Settings.strict, []) := by
  simp only [withRules, rulesOf?_eq, if_pos (affirms_iff.mp yes)]

theorem withRules_of_denies (no : Denies value) : withRules (some value) = (lenient, []) := by
  have other : ∀ word ∈ ["0", "false", "non"], word ∉ ["1", "true", "oui"] := by decide
  have said := denies_iff.mp no
  simp only [withRules, rulesOf?_eq, if_neg (other _ said), if_pos said]

theorem withRules_of_neither (yes : ¬ Affirms value) (no : ¬ Denies value) :
    withRules (some value) =
      (standard, [.strictIgnored (Text.lowerCase (Text.trim value))]) := by
  simp only [withRules, rulesOf?_eq, if_neg (affirms_iff.not.mp yes),
    if_neg (denies_iff.not.mp no)]

/-- Without a yes or a no the settings are those by default. -/
theorem withRules_eq_standard (neither : ∀ value ∈ strict, ¬ Affirms value ∧ ¬ Denies value) :
    (withRules strict).1 = standard := by
  cases strict with
  | none => rfl
  | some value =>
    obtain ⟨yes, no⟩ := neither value rfl
    rw [withRules_of_neither yes no]

/-- A yes or a no is not worth a record. -/
theorem records_withRules_of_readable (readable : ∀ value ∈ strict, Affirms value ∨ Denies value) :
    (withRules strict).2 = [] := by
  cases strict with
  | none => rfl
  | some value =>
    rcases readable value rfl with yes | no
    · rw [withRules_of_affirms yes]
    · rw [withRules_of_denies no]

/-! ## The precision -/

/-- A numeral has a digit, and no blanks. -/
theorem isWord_of_isNumeral {core : String} (h : Number.IsNumeral core n) : Text.IsWord core := by
  obtain ⟨sign, digits, text, plus, some, all, -⟩ := h
  constructor
  · intro none
    rw [text] at none
    exact some (List.append_eq_nil_iff.mp none).2
  · intro c hc
    rw [text, List.mem_append] at hc
    rcases hc with signs | digit
    · rcases plus with rfl | rfl
      · exact absurd signs List.not_mem_nil
      · rw [List.mem_singleton.mp signs]
        rfl
    · exact Token.isBlank_of_isNumeric (by rw [Token.isNumeric, all c digit, Bool.true_or])

/-- **The numbers that are said are those that are read.** -/
theorem states_iff : States value n ↔ Number.readNumeral (Text.trim value) = .ok n := by
  rw [Number.readNumeral_eq_ok_iff]
  constructor
  · rintro ⟨core, wraps, numeral, fits⟩
    rw [Text.trim_of_wraps (isWord_of_isNumeral numeral) wraps]
    exact ⟨numeral, fits⟩
  · rintro ⟨numeral, fits⟩
    exact ⟨_, Text.wraps_trim value, numeral, fits⟩

theorem withDigits_of_states (h : States value n) :
    s.withDigits (some value) = (s.setDigits n, []) := by
  simp only [withDigits, states_iff.mp h]

theorem withDigits_of_not_states (h : ∀ n, ¬ States value n) :
    ∃ fault, s.withDigits (some value) = (s, [.digitsIgnored value fault]) := by
  cases read : Number.readNumeral (Text.trim value) with
  | ok n => exact absurd (states_iff.mpr read) (h n)
  | error fault => exact ⟨fault, by simp only [withDigits, read]⟩

/-- Without a number the settings stay. -/
theorem withDigits_eq_self (unread : ∀ value ∈ digits, ∀ n, ¬ States value n) :
    (s.withDigits digits).1 = s := by
  cases digits with
  | none => rfl
  | some value =>
    obtain ⟨fault, ignored⟩ := withDigits_of_not_states (s := s) (unread value rfl)
    rw [ignored]

/-- A number is not worth a record. -/
theorem records_withDigits_of_readable (readable : ∀ value ∈ digits, ∃ n, States value n) :
    (s.withDigits digits).2 = [] := by
  cases digits with
  | none => rfl
  | some value =>
    obtain ⟨n, number⟩ := readable value rfl
    rw [withDigits_of_states number]

/-! ## Each part on its own -/

/-- A value of the variable for the precision sets it or leaves it alone, whatever the settings. -/
theorem withDigits_cases (digits : Option String) :
    (∀ s : Settings, (s.withDigits digits).1 = s) ∨
      ∃ n, ∀ s : Settings, (s.withDigits digits).1 = s.setDigits n := by
  cases digits with
  | none => exact .inl fun _ => rfl
  | some value =>
    by_cases said : ∃ n, States value n
    · obtain ⟨n, number⟩ := said
      exact .inr ⟨n, fun s => by rw [withDigits_of_states number]⟩
    · left
      intro s
      apply withDigits_eq_self
      rintro value ⟨⟩
      exact not_exists.mp said

/-- Both rules are those of the variable for them. -/
theorem rules_withDigits :
    (s.withDigits digits).1.strictBrackets = s.strictBrackets ∧
      (s.withDigits digits).1.strictStack = s.strictStack := by
  rcases withDigits_cases digits with same | ⟨n, set⟩
  · rw [same]
    exact ⟨rfl, rfl⟩
  · rw [set]
    exact ⟨rfl, rfl⟩

/-- The precision under a value depends on the precision before, and on nothing else. -/
theorem digits_withDigits_congr {r : Settings} (h : r.digits = s.digits) :
    (r.withDigits digits).1.digits = (s.withDigits digits).1.digits := by
  rcases withDigits_cases digits with same | ⟨n, set⟩
  · rw [same, same, h]
  · rw [set, set]
    rfl

theorem digits_withDigits_le (h : s.digits ≤ maxDigits) :
    (s.withDigits digits).1.digits ≤ maxDigits := by
  rcases withDigits_cases digits with same | ⟨n, set⟩
  · rwa [same]
  · rw [set]
    exact Nat.min_le_right n maxDigits

/-- All settings that the strict rules name show ten places. -/
theorem digits_withRules (strict : Option String) : (withRules strict).1.digits = 10 := by
  cases strict with
  | none => rfl
  | some value =>
    by_cases yes : Affirms value
    · rw [withRules_of_affirms yes]
      rfl
    by_cases no : Denies value
    · rw [withRules_of_denies no]
      rfl
    · rw [withRules_of_neither yes no]
      rfl

/-- **The settings are what the values of the variables say**, each on its own. A yes or a no
decides both rules, a number the precision; what a variable does not say stays as it is by default.
Exactly the values that say nothing are recorded, the one for the strict rules first. -/
theorem ofValues_reads (strict digits : Option String) :
    let s := (ofValues strict digits).1
    let news := (ofValues strict digits).2.map fun r => (r.level, r.message)
    ((∃ value ∈ strict, Affirms value) → s.strictBrackets = true ∧ s.strictStack = true) ∧
    ((∃ value ∈ strict, Denies value) → s.strictBrackets = false ∧ s.strictStack = false) ∧
    ((∀ value ∈ strict, ¬ Affirms value ∧ ¬ Denies value) →
      s.strictBrackets = true ∧ s.strictStack = false) ∧
    (∀ n, (∃ value ∈ digits, States value n) → s.digits = min n 17) ∧
    ((∀ value ∈ digits, ∀ n, ¬ States value n) → s.digits = 10) ∧
    s.digits ≤ 17 ∧
    (∀ other, (ofValues strict other).1.strictBrackets = s.strictBrackets ∧
      (ofValues strict other).1.strictStack = s.strictStack) ∧
    (∀ other, (ofValues other digits).1.digits = s.digits) ∧
    ∃ first second, news = first ++ second ∧
      ((∀ value ∈ strict, Affirms value ∨ Denies value) → first = []) ∧
      (∀ value ∈ strict, ¬ Affirms value → ¬ Denies value → first =
        [(.warn, "CALCULATRICE_STRICT=" ++ Text.quoted (Text.lowerCase (Text.trim value)) ++
          " ignoré (attendu: oui/non, true/false, 1/0)")]) ∧
      ((∀ value ∈ digits, ∃ n, States value n) → second = []) ∧
      ∀ value ∈ digits, (∀ n, ¬ States value n) → ∃ fault : Number.NumeralFault, second =
        [(.warn, "CALCULATRICE_CHIFFRES=" ++ Text.quoted value ++ " ignoré: " ++
          fault.message)] := by
  intro s news
  simp only [s, news, ofValues]
  refine ⟨?_, ?_, ?_, ?_, ?_, ?_, ?_, ?_, (withRules strict).2.map fun r => (r.level, r.message),
    ((withRules strict).1.withDigits digits).2.map fun r => (r.level, r.message), ?_, ?_, ?_, ?_,
    ?_⟩
  · rintro ⟨value, rfl, yes⟩
    rw [rules_withDigits.1, rules_withDigits.2, withRules_of_affirms yes]
    exact ⟨rfl, rfl⟩
  · rintro ⟨value, rfl, no⟩
    rw [rules_withDigits.1, rules_withDigits.2, withRules_of_denies no]
    exact ⟨rfl, rfl⟩
  · intro neither
    rw [rules_withDigits.1, rules_withDigits.2, withRules_eq_standard neither]
    exact ⟨rfl, rfl⟩
  · rintro n ⟨value, rfl, number⟩
    rw [withDigits_of_states number]
    rfl
  · intro unread
    rw [withDigits_eq_self unread, digits_withRules]
  · apply digits_withDigits_le
    rw [digits_withRules]
    exact Nat.le_add_right 10 7
  · intro other
    rw [rules_withDigits.1, rules_withDigits.2, rules_withDigits.1, rules_withDigits.2]
    exact ⟨rfl, rfl⟩
  · intro other
    apply digits_withDigits_congr
    rw [digits_withRules, digits_withRules]
  · exact List.map_append
  · intro readable
    rw [records_withRules_of_readable readable, List.map_nil]
  · rintro value rfl yes no
    rw [withRules_of_neither yes no]
    rfl
  · intro readable
    rw [records_withDigits_of_readable readable, List.map_nil]
  · rintro value rfl unread
    obtain ⟨fault, ignored⟩ := withDigits_of_not_states (s := (withRules strict).1) unread
    exact ⟨fault, by rw [ignored]; rfl⟩

/-- A yes in capital letters between blanks, and a numeral with a sign and zeros in front; then a
word that says nothing, and the first number that no longer fits. -/
theorem ofValues_reads_overflow :
    ((ofValues (some " OUI\n") (some "+0018446744073709551615")).1.strictStack = true ∧
      (ofValues (some " OUI\n") (some "+0018446744073709551615")).1.digits = 17) ∧
    (ofValues (some "peut-être") (some "18446744073709551616")).1.digits = 10 ∧
    (ofValues (some "peut-être") (some "18446744073709551616")).2.length = 2 := by
  have yes : Affirms " OUI\n" := affirms_iff.mpr (by decide)
  have most : States "+0018446744073709551615" 18446744073709551615 := states_iff.mpr (by decide)
  have beyond : ∀ n, ¬ States "18446744073709551616" n := by
    intro n number
    have failed : Number.readNumeral (Text.trim "18446744073709551616") = .error .tooLarge := by
      decide
    exact absurd (failed.symm.trans (states_iff.mp number)) (by simp)
  have neither : ¬ Affirms "peut-être" ∧ ¬ Denies "peut-être" := by
    rw [affirms_iff, denies_iff]
    decide
  obtain ⟨rules, -, -, precision, -⟩ :=
    ofValues_reads (some " OUI\n") (some "+0018446744073709551615")
  obtain ⟨-, -, -, -, ten, -, -, -, first, second, news, -, one, -, two⟩ :=
    ofValues_reads (some "peut-être") (some "18446744073709551616")
  refine ⟨⟨(rules ⟨_, rfl, yes⟩).2, precision _ ⟨_, rfl, most⟩⟩, ten ?_, ?_⟩
  · rintro value ⟨⟩
    exact beyond
  · obtain ⟨fault, last⟩ := two _ rfl beyond
    rw [one _ rfl neither.1 neither.2, last] at news
    have counted := congrArg List.length news
    rwa [List.length_map, List.length_append, List.length_singleton, List.length_singleton]
      at counted

end DeskCalculator.Settings
