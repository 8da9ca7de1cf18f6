import DeskCalculator.Proofs.Postfix.Moves
import DeskCalculator.Proofs.Token.Division
import Mathlib.Logic.Function.Iterate

/-!
# Groups and commas

Brackets and commas isolate what they enclose or divide. Inside a group nothing that waits before
it is looked at, because every search of the queue stops at the bracket of the group; at the end of
the group, and at a comma outside all groups, everything that was read since has been put out. So
the postfix form of a whole is made of the forms of its parts.

## Main definitions

* `Conversion.above`: a conversion on top of another one
* `Conversion.IsFloor`: the conversions that nothing on top of them can reach into
* `Expression.bracketed`: an expression between brackets

## Main results

* `Conversion.step_above`, `Conversion.steps_above`: what lies below a conversion is left alone
* `Conversion.steps_group`, `Conversion.steps_behind_comma`: the tokens of a group, and those behind
  a comma
* `Postfix.ofExpression_group`: a group has the form of what it encloses
* `Postfix.ofExpression_comma`: a comma puts two forms one behind the other
-/

namespace DeskCalculator

/-- An expression between brackets. -/
def Expression.bracketed (expression : String) : String :=
  "(" ++ expression ++ ")"

namespace Conversion

/-- A conversion on top of another one: the output of the lower one comes first, and what waits in
it comes behind everything that waits above. -/
def above (c base : Conversion) : Conversion where
  waiting := c.waiting ++ base.waiting
  output := base.output ++ c.output

/-- A conversion in which nothing waits, or a bracket in front. -/
def IsFloor (base : Conversion) : Prop :=
  ∀ w ∈ base.waiting.head?, w = .bracket

variable {base c d : Conversion} {t : Token} {ts : List Token}

theorem start_above (base : Conversion) : above {} base = base := by
  simp [above]

theorem isFloor_push_bracket (c : Conversion) : (c.push .bracket).IsFloor :=
  fun _ hw => (Option.some.inj hw).symm

/-! ## Above a floor -/

section Floor

variable (floor : base.IsFloor)

include floor

/-- A flush that stops at a bracket stays above a floor. -/
theorem flushWhile_above {p : Waiting → Bool} (stop : p .bracket = false) (c : Conversion) :
    (c.above base).flushWhile p = (c.flushWhile p).above base := by
  have split : (c.above base).waiting =
      c.waiting.takeWhile p ++ (c.waiting.dropWhile p ++ base.waiting) := by
    rw [← List.append_assoc, List.takeWhile_append_dropWhile]
    rfl
  rw [flushWhile_eq split (List.all_eq_true.mp List.all_takeWhile) ?_]
  · exact congrArg (Conversion.mk _) (Array.ext' (by simp [above, flushWhile]))
  · -- what stops the flush is what stopped it before, or else the bracket of the floor
    intro w hw
    cases left : c.waiting.dropWhile p with
    | nil =>
      rw [left] at hw
      rw [floor w hw]
      exact stop
    | cons v waiting =>
      have stopped := List.head?_dropWhile_not p c.waiting
      rw [left] at stopped hw
      obtain rfl : v = w := Option.some.inj hw
      exact stopped

/-- **A step that succeeds does not reach below a floor.** -/
theorem step_above (h : c.step t = .ok d) : (c.above base).step t = .ok (d.above base) := by
  cases t with
  | number literal | pi =>
    obtain rfl := Except.ok.inj h
    simp [step, emit, above]
  | opening =>
    obtain rfl := Except.ok.inj h
    rfl
  | closing =>
    have flush : (c.above base).flushGroup = c.flushGroup.above base :=
      flushWhile_above floor rfl c
    simp only [step, closeGroup, flush] at h ⊢
    cases waiting : c.flushGroup.waiting with
    | nil => simp [waiting] at h
    | cons w rest =>
      simp only [waiting, Except.ok.injEq] at h
      simp [← h, above, waiting]
  | comma =>
    obtain rfl := Except.ok.inj h
    exact congrArg Except.ok (flushWhile_above floor rfl c)
  | operator o =>
    obtain rfl := Except.ok.inj h
    simp only [step, addOperator]
    split
    · rfl
    · rw [flushWhile_above floor (priority_le_bracket o)]
      rfl
  | unknown word => cases h

theorem steps_above (h : c.steps ts = .ok d) : (c.above base).steps ts = .ok (d.above base) := by
  induction ts generalizing c with
  | nil =>
    obtain rfl := Except.ok.inj h
    rfl
  | cons t ts ih =>
    obtain ⟨b, first, others⟩ := steps_cons_eq_ok_iff.mp h
    exact steps_cons_eq_ok_iff.mpr ⟨_, step_above floor first, ih others⟩

end Floor

/-! ## Above a conversion in which nothing waits -/

section Done

variable (done : base.waiting = [])

include done

/-- Where nothing waits below, a step has the same outcome, failures included. -/
theorem step_above_done (c : Conversion) (t : Token) :
    (c.above base).step t = (c.step t).map (·.above base) := by
  cases h : c.step t with
  | ok d => exact step_above (by simp [IsFloor, done]) h
  | error e =>
    apply step_eq_error_iff.mpr
    simpa [above, done] using step_eq_error_iff.mp h

theorem steps_above_done (c : Conversion) (ts : List Token) :
    (c.above base).steps ts = (c.steps ts).map (·.above base) := by
  induction ts generalizing c with
  | nil => rfl
  | cons t ts ih =>
    rw [steps_cons, steps_cons, step_above_done done]
    cases c.step t with
    | error e => rfl
    | ok b => exact ih b

theorem finish_above_done (c : Conversion) (strictBrackets : Bool) :
    (c.above base).finish strictBrackets =
      (c.finish strictBrackets).map (base.output.toList ++ ·) := by
  rw [finish_eq, finish_eq]
  simp only [above, done, List.append_nil, tokens, Array.toList_append, List.append_assoc]
  split <;> rfl

end Done

/-! ## Groups and commas -/

/-- Where no bracket is open, the flush of a group puts everything out. -/
theorem flushGroup_of_closed (closed : .bracket ∉ c.waiting) :
    c.flushGroup = ⟨[], c.tokens.toArray⟩ := by
  have all : ∀ w ∈ c.waiting, (w != .bracket) = true := by
    intro w hw
    simpa using ne_of_mem_of_not_mem hw closed
  rw [flushGroup, flushWhile_eq (List.append_nil _).symm all (by simp), tokens]
  congr 1
  apply Array.ext'
  simp

/-- The tokens of a group are put out above whatever waits, which is left as it was. -/
theorem steps_group (run : steps {} ts = .ok d) (closed : .bracket ∉ d.waiting) (c : Conversion) :
    c.steps (.opening :: (ts ++ [.closing])) = .ok ⟨c.waiting, c.output ++ d.tokens⟩ := by
  have inside : (c.push .bracket).steps ts = .ok (d.above (c.push .bracket)) := by
    rw [← start_above (c.push .bracket)]
    exact steps_above (isFloor_push_bracket c) run
  have flush : (d.above (c.push .bracket)).flushGroup = _ :=
    flushWhile_above (isFloor_push_bracket c) rfl d
  rw [show d.flushWhile (· != .bracket) = _ from flushGroup_of_closed closed] at flush
  rw [steps_cons, step, Except.bind_ok, steps_append_of_ok inside, steps_cons, step, closeGroup,
    flush]
  have output : (c.push .bracket).output ++ d.tokens.toArray = c.output ++ d.tokens :=
    Array.ext' (by simp [push])
  exact congrArg (fun output => Except.ok (Conversion.mk c.waiting output)) output

/-- At a comma outside all groups everything is put out. -/
theorem steps_comma (run : steps {} ts = .ok d) (closed : .bracket ∉ d.waiting) :
    steps {} (ts ++ [.comma]) = .ok ⟨[], d.tokens.toArray⟩ := by
  rw [steps_append_of_ok run, steps_cons, step, flushGroup_of_closed closed]
  rfl

/-- What follows such a comma is converted as it is alone, behind the output so far. -/
theorem steps_behind_comma (run : steps {} ts = .ok d) (closed : .bracket ∉ d.waiting)
    (us : List Token) :
    steps {} (ts ++ .comma :: us) = (steps {} us).map (·.above ⟨[], d.tokens.toArray⟩) := by
  rw [← List.singleton_append, ← List.append_assoc, steps_append_of_ok (steps_comma run closed),
    ← steps_above_done rfl, start_above]

end Conversion

namespace Lexer

variable {a : String} (read : (ofString a).scan.failure = none)

include read

/-- The tokens between brackets are those of the expression alone, wherever the group stands. -/
theorem scan_bracketed (r : List Char) (bound afterNumber : Bool) :
    scan ⟨(Expression.bracketed a).toList ++ r, bound, afterNumber⟩ =
      let behind := scan ⟨r, true, false⟩
      ⟨.opening :: ((ofString a).scan.tokens ++ .closing :: behind.tokens), behind.failure⟩ := by
  have text : (Expression.bracketed a).toList ++ r = '(' :: (a.toList ++ ')' :: r) := by
    simp [Expression.bracketed]
  have inside : scan ⟨a.toList ++ ')' :: r, false, false⟩ = _ :=
    scan_append_sign read (c := ')') rfl (by simp) r
  rw [text, scan_sign (c := '(') rfl (by simp)]
  simp only [Token.completesOperand, inside]

/-- Behind a comma the reading starts anew. -/
theorem scan_comma (b : String) :
    (ofString (a ++ "," ++ b)).scan =
      ⟨(ofString a).scan.tokens ++ .comma :: (ofString b).scan.tokens,
        (ofString b).scan.failure⟩ := by
  have text : ofString (a ++ "," ++ b) = (ofString a).append (',' :: b.toList) := by
    simp [ofString, append]
  rw [text]
  exact scan_append_sign read (c := ',') rfl (by simp) b.toList

end Lexer

namespace Postfix

variable {a : String} {s : Settings} {ts : Postfix}

/-- A form under the rule for brackets, with the conversion that leads to it. -/
theorem exists_closed_of_ofExpression (strict : s.strictBrackets = true)
    (form : ofExpression a s = .ok ts) :
    (Lexer.ofString a).scan.failure = none ∧
      ∃ c : Conversion, Conversion.steps {} (Lexer.ofString a).scan.tokens = .ok c ∧
        .bracket ∉ c.waiting ∧ c.tokens = ts := by
  obtain ⟨read, c, run, closed, tokens⟩ := ofExpression_eq_ok_iff.mp form
  exact ⟨read, c, run, fun waits => closed ⟨strict, waits⟩, tokens⟩

theorem ofExpression_of_strict (strict : s.strictBrackets = true) (form : ofExpression a s = .ok ts)
    (r : Settings) : ofExpression a r = .ok ts := by
  obtain ⟨read, c, run, closed, tokens⟩ := exists_closed_of_ofExpression strict form
  exact ofExpression_eq_ok_iff.mpr ⟨read, c, run, fun waits => closed waits.2, tokens⟩

/-- The form of a group is that of what it encloses. -/
theorem ofExpression_bracketed (strict : s.strictBrackets = true)
    (form : ofExpression a s = .ok ts) : ofExpression (Expression.bracketed a) s = .ok ts := by
  obtain ⟨read, c, run, closed, rfl⟩ := exists_closed_of_ofExpression strict form
  have whole := Lexer.scan_bracketed read [] false false
  rw [List.append_nil, Lexer.scan_nil] at whole
  have group := Conversion.steps_group run closed {}
  rw [ofExpression, Lexer.ofString, whole]
  simp [group, Conversion.finish_eq, Conversion.tokens]

/-- **A group stands for itself.** The tokens of an expression whose brackets are closed are the
same between brackets, wherever the group stands in a text. Converting the group leaves alone what
waits, and adds the form of the expression to the output. So the group has the form of the
expression, also if there are several pairs of brackets around it. -/
theorem ofExpression_group (strict : s.strictBrackets = true) (form : ofExpression a s = .ok ts) :
    ∃ us, Expression.tokens a = .ok us ∧
      (∀ r bound afterNumber,
        Lexer.scan ⟨(Expression.bracketed a).toList ++ r, bound, afterNumber⟩ =
          let behind := Lexer.scan ⟨r, true, false⟩
          ⟨.opening :: (us ++ .closing :: behind.tokens), behind.failure⟩) ∧
      (∀ c : Conversion,
        c.steps (.opening :: (us ++ [.closing])) = .ok ⟨c.waiting, c.output ++ ts⟩) ∧
      ∀ n r, ofExpression (Expression.bracketed^[n] a) r = .ok ts := by
  obtain ⟨read, c, run, closed, rfl⟩ := exists_closed_of_ofExpression strict form
  refine ⟨_, by rw [Expression.tokens, read], Lexer.scan_bracketed read,
    Conversion.steps_group run closed, ?_⟩
  intro n r
  refine ofExpression_of_strict strict ?_ r
  induction n with
  | zero => exact form
  | succ n ih =>
    rw [Function.iterate_succ_apply']
    exact ofExpression_bracketed strict ih

/-- The minus sign in brackets does not reach the sign that waits before them. -/
theorem ofExpression_group_behind_sign :
    ofExpression "2-3" .strict = .ok [.number "2", .number "3", .operator (.binary .minus)] ∧
      Conversion.steps ⟨[.operator (.binary .times)], #[.number "4"]⟩
          [.opening, .number "2", .operator (.binary .minus), .number "3", .closing] =
        .ok ⟨[.operator (.binary .times)],
          #[.number "4", .number "2", .number "3", .operator (.binary .minus)]⟩ ∧
      ofExpression "((2-3))" .lenient =
        .ok [.number "2", .number "3", .operator (.binary .minus)] := by
  have read : (Lexer.ofString "2-3").scan =
      ⟨[.number "2", .operator (.binary .minus), .number "3"], none⟩ := by decide +kernel
  have form : ofExpression "2-3" .strict =
      .ok [.number "2", .number "3", .operator (.binary .minus)] := by
    rw [ofExpression, read]
    rfl
  obtain ⟨us, tokens, -, group, nested⟩ := ofExpression_group rfl form
  rw [Expression.tokens, read] at tokens
  obtain rfl := Except.ok.inj tokens
  exact ⟨form, group _, nested 2 .lenient⟩

/-- **A comma puts two forms one behind the other.** At a comma behind an expression whose brackets
are closed nothing waits any more, so what follows is converted as it is alone: into its form, which
comes behind the first one, or into its failure. -/
theorem ofExpression_comma (strict : s.strictBrackets = true) (form : ofExpression a s = .ok ts)
    (b : String) (r : Settings) :
    (∃ us, Expression.tokens a = .ok us ∧
      Conversion.steps {} (us ++ [.comma]) = .ok ⟨[], ts.toArray⟩) ∧
    ofExpression (a ++ "," ++ b) r = (ofExpression b r).map (ts ++ ·) := by
  obtain ⟨read, c, run, closed, rfl⟩ := exists_closed_of_ofExpression strict form
  refine ⟨⟨_, by rw [Expression.tokens, read], Conversion.steps_comma run closed⟩, ?_⟩
  rw [ofExpression, Lexer.scan_comma read b, ofExpression]
  simp only [Conversion.steps_behind_comma run closed]
  cases Conversion.steps {} (Lexer.ofString b).scan.tokens with
  | error e => rfl
  | ok d =>
    cases (Lexer.ofString b).scan.failure with
    | some e => rfl
    | none => exact Conversion.finish_above_done rfl d r.strictBrackets

/-- The sign before a comma does not wait for an operand behind it, where a minus sign is one in
front of its operand; and a failure behind the comma keeps its text. -/
theorem ofExpression_comma_behind_sign :
    ofExpression "1-" .strict = .ok [.number "1", .operator (.binary .minus)] ∧
      ofExpression "1-,-2" .strict = .ok [.number "1", .operator (.binary .minus), .number "2",
        .operator .negation] ∧
      ofExpression "1-,2$" .strict = .error (.unreadable "$") := by
  have form : ofExpression "1-" .strict = .ok [.number "1", .operator (.binary .minus)] := by
    have read : (Lexer.ofString "1-").scan = ⟨[.number "1", .operator (.binary .minus)], none⟩ := by
      decide +kernel
    rw [ofExpression, read]
    rfl
  have negated : ofExpression "-2" .strict = .ok [.number "2", .operator .negation] := by
    have read : (Lexer.ofString "-2").scan = ⟨[.operator .negation, .number "2"], none⟩ := by
      decide +kernel
    rw [ofExpression, read]
    rfl
  have failed : ofExpression "2$" .strict = .error (.unreadable "$") := by
    have read : (Lexer.ofString "2$").scan = ⟨[.number "2"], some (.unreadable "$")⟩ := by
      decide +kernel
    rw [ofExpression, read]
    rfl
  refine ⟨form, (ofExpression_comma rfl form "-2" .strict).2.trans ?_,
    (ofExpression_comma rfl form "2$" .strict).2.trans ?_⟩
  · rw [negated]
    rfl
  · rw [failed]
    rfl

end Postfix

end DeskCalculator
