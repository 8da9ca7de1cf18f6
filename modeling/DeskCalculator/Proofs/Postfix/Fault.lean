import DeskCalculator.Proofs.Postfix.Moves
import DeskCalculator.Proofs.Token.Isolated
import Mathlib.Order.Bounds.Defs

/-!
# The first fault of an expression

An expression is converted while it is read, so the first fault in reading order decides, of
whatever kind it is: a place where no token can be read, a word that names nothing, or a closing
bracket that has no opening one before it. The end is judged only if there is no fault.

## Main definitions

* `Conversion.Fault`: why a conversion cannot go on with an item
* `Conversion.FaultAt`: the faults of an expression at a position

## Main results

* `Conversion.step_eq_error_iff_fault`: behind tokens without a fault, a step fails for a fault only
* `Conversion.exists_steps_take`: up to the first fault the conversion goes on
* `Conversion.exists_steps_of_no_fault`, `Conversion.not_faultAt_of_steps`: the expressions without
  a fault are those that are read to their end and converted
* `Postfix.ofExpression_decides_faults`: which expressions have a postfix form, and how others fail
-/

namespace DeskCalculator

/-! ## Faults -/

namespace Conversion

/-- Why a conversion cannot go on with an item of the reading, behind the tokens `before`: nothing
can be read there, the item is a word that names nothing, or it is a closing bracket, and up to and
including it more brackets are closed than opened. -/
inductive Fault (before : List Token) : Except Failure Token → Failure → Prop
  | unreadable (rest : String) : Fault before (.error (.unreadable rest)) (.unreadable rest)
  | unknownWord {t : Token} (word : t.kind = .word) (constant : t.text ≠ Token.pi.text)
    (functions : ∀ f : NamedFunction, t.text ≠ f.name) :
    Fault before (.ok t) (.unknownSymbol t.text)
  | unopened
    (more : (before ++ [Token.closing]).count Token.opening <
      (before ++ [Token.closing]).count Token.closing) :
    Fault before (.ok .closing) .unopenedBracket

/-- The faults of an expression at a position of its reading, counted from zero. -/
def FaultAt (expression : String) (i : Nat) (e : Failure) : Prop :=
  ∃ x ∈ (Lexer.ofString expression).item i,
    Fault ((Lexer.ofString expression).scan.tokens.take i) x e

variable {c : Conversion} {before : List Token} {t : Token} {e : Failure}

/-- Behind tokens that were converted, a step fails exactly for a fault. -/
theorem step_eq_error_iff_fault (run : steps {} before = .ok c) (isolable : t.IsIsolable) :
    c.step t = .error e ↔ Fault before (.ok t) e := by
  rw [step_eq_error_iff]
  have count : c.waiting.count .bracket + before.count .closing = 0 + before.count .opening :=
    (path_of_steps run).count_bracket
  constructor
  · rintro (⟨word, nameless, rfl, rfl⟩ | ⟨rfl, none, rfl⟩)
    · exact .unknownWord (t := .unknown word nameless) rfl nameless.1
        fun f => nameless.ne_text (.function f)
    · rw [← List.count_eq_zero] at none
      refine .unopened ?_
      simp
      omega
  · intro fault
    cases fault with
    | unknownWord word constant functions =>
      obtain ⟨nameless, eq⟩ := Token.exists_eq_unknown word constant functions
      exact .inl ⟨t.text, nameless, eq, rfl⟩
    | unopened more =>
      refine .inr ⟨rfl, ?_, rfl⟩
      rw [← List.count_eq_zero]
      simp at more
      omega

section Expression

variable {expression : String} {i : Nat}

/-- As long as there is no fault, the conversion goes on. -/
theorem exists_steps_take (none : ∀ j < i, ∀ e, ¬ FaultAt expression j e) :
    ∃ c, steps {} ((Lexer.ofString expression).scan.tokens.take i) = .ok c := by
  induction i with
  | zero => exact ⟨{}, rfl⟩
  | succ i ih =>
    obtain ⟨c, run⟩ := ih fun j hj => none j (Nat.lt_succ_of_lt hj)
    cases read : (Lexer.ofString expression).scan.tokens[i]? with
    | none =>
      rw [List.take_add_one, read]
      exact ⟨c, by simpa using run⟩
    | some t =>
      rw [List.take_add_one, read, Option.toList_some, steps_append_of_ok run, steps_cons]
      cases step : c.step t with
      | ok d => exact ⟨d, rfl⟩
      | error e =>
        have isolable := Lexer.isIsolable_of_mem_scan t (List.mem_of_getElem? read)
        have fault := (step_eq_error_iff_fault run isolable).mp step
        exact absurd ⟨_, Lexer.item_of_getElem? read, fault⟩ (none i (Nat.lt_succ_self i) e)

/-- Without a fault an expression is read to its end and converted. -/
theorem exists_steps_of_no_fault (none : ∀ i e, ¬ FaultAt expression i e) :
    (Lexer.ofString expression).scan.failure = .none ∧
      ∃ c, steps {} (Lexer.ofString expression).scan.tokens = .ok c := by
  constructor
  · rw [Option.eq_none_iff_forall_ne_some]
    intro e failure
    obtain ⟨rest, rfl⟩ := Lexer.exists_unreadable_of_scan failure
    exact none _ _ ⟨_, Lexer.item_length_of_failure failure, .unreadable rest⟩
  · have run := exists_steps_take (i := (Lexer.ofString expression).scan.tokens.length)
      fun j _ => none j
    rwa [List.take_length] at run

/-- A conversion that has come to a fault fails for it. -/
theorem ofExpression_of_faultAt (run : steps {}
    ((Lexer.ofString expression).scan.tokens.take i) = .ok c) (fault : FaultAt expression i e)
    (r : Settings) : Postfix.ofExpression expression r = .error e := by
  obtain ⟨x, item, fault⟩ := fault
  rw [Postfix.ofExpression]
  rcases Lexer.item_cases item with ⟨t, rfl, read⟩ | ⟨f, rfl, rfl, failure⟩
  · have isolable := Lexer.isIsolable_of_mem_scan t (List.mem_of_getElem? read)
    have step := (step_eq_error_iff_fault run isolable).mpr fault
    obtain ⟨lt, rfl⟩ := List.getElem?_eq_some_iff.mp read
    have split := List.take_append_drop i (Lexer.ofString expression).scan.tokens
    rw [← List.getElem_cons_drop lt] at split
    rw [← split, steps_append_of_ok run, steps_cons, step]
    rfl
  · rw [List.take_length] at run
    obtain rfl : f = e := by cases fault; rfl
    simp [run, failure]

/-- An expression that is read to its end and converted has no fault. -/
theorem not_faultAt_of_steps (read : (Lexer.ofString expression).scan.failure = none)
    (run : steps {} (Lexer.ofString expression).scan.tokens = .ok c) (i : Nat) (e : Failure) :
    ¬ FaultAt expression i e := by
  intro fault
  have whole := run
  rw [← List.take_append_drop i (Lexer.ofString expression).scan.tokens, steps_append] at whole
  cases up_to : steps {} ((Lexer.ofString expression).scan.tokens.take i) with
  | error f => simp [up_to] at whole
  | ok b =>
    have failed := ofExpression_of_faultAt up_to fault .lenient
    have form : Postfix.ofExpression expression .lenient = .ok c.tokens :=
      Postfix.ofExpression_eq_ok_iff.mpr ⟨read, c, run, by simp [Settings.lenient], rfl⟩
    exact absurd (form.symm.trans failed) (by simp)

end Expression

end Conversion

open Conversion in
/-- **The first fault decides.** In reading order the first fault of an expression is its failure.
Without a fault it is read to its end, and its only failure is a bracket that must be closed: under
the strict rule, if it opens more brackets than it closes. Otherwise it has a postfix form. -/
theorem Postfix.ofExpression_decides_faults (expression : String) (r : Settings) :
    (∀ i e, IsLeast {i | ∃ e, FaultAt expression i e} i → FaultAt expression i e →
      ofExpression expression r = .error e) ∧
    ((∀ i e, ¬ FaultAt expression i e) → ∃ ts, Expression.tokens expression = .ok ts ∧
      (r.strictBrackets = true ∧ ts.count .closing < ts.count .opening →
        ofExpression expression r = .error .unclosedBracket) ∧
      (¬ (r.strictBrackets = true ∧ ts.count .closing < ts.count .opening) →
        ∃ p, ofExpression expression r = .ok p)) := by
  constructor
  · intro i e least fault
    -- there may be several faults at one position, so all of them are excluded before it
    have none : ∀ j < i, ∀ e, ¬ FaultAt expression j e := by
      intro j hj e earlier
      exact absurd (least.2 ⟨e, earlier⟩) (Nat.not_le_of_lt hj)
    obtain ⟨c, run⟩ := exists_steps_take none
    exact ofExpression_of_faultAt run fault r
  · intro none
    obtain ⟨failure, c, run⟩ := exists_steps_of_no_fault none
    have count := (path_of_steps run).count_bracket
    have waits : .bracket ∈ c.waiting ↔
        (Lexer.ofString expression).scan.tokens.count .closing <
          (Lexer.ofString expression).scan.tokens.count .opening := by
      rw [← List.count_pos_iff]
      simp at count
      omega
    refine ⟨_, by rw [Expression.tokens, failure], ?_, ?_⟩
    · rintro ⟨strict, more⟩
      simp [ofExpression, run, failure, finish_eq, strict, waits.mpr more]
    · intro closed
      rw [← waits] at closed
      exact ⟨_, ofExpression_eq_ok_iff.mpr ⟨failure, c, run, closed, rfl⟩⟩

open Conversion in
/-- The closing bracket comes before the word and the dollar sign; an opening bracket is judged at
the end, and only under the strict rule. -/
theorem Postfix.ofExpression_decides_faults_early_bracket :
    (Lexer.ofString "1) a$").scan =
        ⟨[.number "1", .closing, .unknown "a"], some (.unreadable "$")⟩ ∧
      IsLeast {i | ∃ e, FaultAt "1) a$" i e} 1 ∧ FaultAt "1) a$" 1 .unopenedBracket ∧
      ofExpression "1) a$" .strict = .error .unopenedBracket ∧
      (∀ i e, ¬ FaultAt "(1" i e) ∧ ofExpression "(1" .strict = .error .unclosedBracket ∧
      ∃ p, ofExpression "(1" .lenient = .ok p := by
  have read : (Lexer.ofString "1) a$").scan =
      ⟨[.number "1", .closing, .unknown "a"], some (.unreadable "$")⟩ := by decide +kernel
  have fault : FaultAt "1) a$" 1 .unopenedBracket := by
    refine ⟨.ok .closing, Lexer.item_of_getElem? (by rw [read]; rfl), ?_⟩
    rw [read]
    exact .unopened (by decide)
  have first : IsLeast {i | ∃ e, FaultAt "1) a$" i e} 1 := by
    refine ⟨⟨_, fault⟩, ?_⟩
    rintro i ⟨e, x, item, earlier⟩
    refine Nat.pos_of_ne_zero ?_
    rintro rfl
    rw [Lexer.item_of_getElem? (t := .number "1") (by rw [read]; rfl)] at item
    obtain rfl := Option.some.inj item
    cases earlier with
    | unknownWord word => cases word
  have unclosed : (Lexer.ofString "(1").scan = ⟨[.opening, .number "1"], none⟩ := by
    decide +kernel
  have none : ∀ i e, ¬ FaultAt "(1" i e := by
    rintro i e ⟨x, item, fault⟩
    rcases Lexer.item_cases item with ⟨t, rfl, at_i⟩ | ⟨f, -, -, failure⟩
    · have mem := List.mem_of_getElem? at_i
      rw [unclosed] at mem
      cases fault with
      | unknownWord word =>
        simp only [List.mem_cons, List.not_mem_nil, or_false] at mem
        rcases mem with rfl | rfl <;> cases word
      | unopened => exact absurd mem (by decide)
    · rw [unclosed] at failure
      cases failure
  obtain ⟨ts, tokens, strict, -⟩ := (ofExpression_decides_faults "(1" .strict).2 none
  obtain ⟨us, -, -, lenient⟩ := (ofExpression_decides_faults "(1" .lenient).2 none
  rw [Expression.tokens, unclosed] at tokens
  obtain rfl := Except.ok.inj tokens
  exact ⟨read, first, fault, (ofExpression_decides_faults "1) a$" .strict).1 1 _ first fault, none,
    strict ⟨rfl, by decide⟩, lenient (by simp [Settings.lenient])⟩

end DeskCalculator
