import DeskCalculator.Proofs.Number.Numeral
import DeskCalculator.Proofs.Postfix.Steps
import DeskCalculator.Proofs.Token.Spelling

/-!
# Phrases

The infix language, as the derivation trees of its grammar, and its conversion into postfix form.

    sum      ::= sum + product | sum - product | product
    product  ::= product * power | product / power | power
    power    ::= power ^ prefixed | prefixed
    prefixed ::= - prefixed | f prefixed | log ( sum , sum ) | primary
    primary  ::= numeral | pi | ( sum ) | primary !

Here `f` is any named function but `log`. While a phrase is converted, nothing that waits before it
is moved, and at its end only symbols wait that bind at least as strongly as the phrase is closed.

## Main definitions

* `Phrase`: the derivation trees
* `Phrase.tokens`, `Phrase.postorder`: the tokens of a phrase in reading order and in postfix order
* `Conversion.Yields`: what a conversion does with the tokens of a phrase

## Main results

* `Phrase.yields`: the conversion of a phrase, whatever waits before it
* `Phrase.ofExpression_of_spells`: every text that spells a phrase has the postfix form of it
-/

namespace DeskCalculator

/-- The levels of the grammar, from the loosest to the tightest. -/
inductive Phrase.Level where
  | sum | product | power | prefixed | primary
  deriving DecidableEq, Repr

/-- The next tighter level. -/
def Phrase.Level.tighter : Level → Level
  | sum => product
  | product => power
  | power => prefixed
  | prefixed | primary => primary

/-- The level of the phrases that a sign joins. -/
def BinarySign.level : BinarySign → Phrase.Level
  | plus | minus => .sum
  | times | divide => .product
  | power => .power

/-- The derivation trees of the grammar. -/
inductive Phrase : Phrase.Level → Type
  | numeral (n : Number.Numeral) : Phrase .primary
  | pi : Phrase .primary
  | bracketed (inner : Phrase .sum) : Phrase .primary
  | factorial (operand : Phrase .primary) : Phrase .primary
  | negated (operand : Phrase .prefixed) : Phrase .prefixed
  | call (f : NamedFunction) (unary : f ≠ .log) (argument : Phrase .prefixed) : Phrase .prefixed
  | log (base argument : Phrase .sum) : Phrase .prefixed
  | binary (sign : BinarySign) (left : Phrase sign.level) (right : Phrase sign.level.tighter) :
    Phrase sign.level
  /-- A phrase of a tighter level. -/
  | tight {level : Phrase.Level} (loose : level ≠ .primary) (p : Phrase level.tighter) :
    Phrase level

namespace Phrase

variable {level : Level}

/-- The tokens of a phrase in reading order. -/
def tokens {level : Level} : Phrase level → List Token
  | numeral n => [.number n.text]
  | pi => [.pi]
  | bracketed inner => .opening :: (inner.tokens ++ [.closing])
  | factorial operand => operand.tokens ++ [.operator .factorial]
  | negated operand => .operator .negation :: operand.tokens
  | call f _ argument => .operator (.function f) :: argument.tokens
  | log base argument =>
    .operator (.function .log) :: .opening ::
      (base.tokens ++ .comma :: (argument.tokens ++ [.closing]))
  | binary sign left right => left.tokens ++ .operator (.binary sign) :: right.tokens
  | tight _ p => p.tokens

/-- The tokens of a phrase in postfix order, without brackets and commas. -/
def postorder {level : Level} : Phrase level → List Token
  | numeral n => [.number n.text]
  | pi => [.pi]
  | bracketed inner => inner.postorder
  | factorial operand => operand.postorder ++ [.operator .factorial]
  | negated operand => operand.postorder ++ [.operator .negation]
  | call f _ argument => argument.postorder ++ [.operator (.function f)]
  | log base argument =>
    base.postorder ++ argument.postorder ++ [.operator (.function .log)]
  | binary sign left right => left.postorder ++ right.postorder ++ [.operator (.binary sign)]
  | tight _ p => p.postorder

theorem postorder_ne_nil (p : Phrase level) : p.postorder ≠ [] := by
  induction p with
  | bracketed inner ih => exact ih
  | tight loose p ih => exact ih
  | _ => simp [postorder]

/-- A phrase starts where no operand is complete, and completes one. -/
theorem areLegible_tokens (p : Phrase level) {us : List Token}
    (h : Token.AreLegible true us) : Token.AreLegible false (p.tokens ++ us) := by
  induction p generalizing us with
  | numeral n =>
    obtain ⟨d, hd, -⟩ := n.digit
    exact ⟨⟨List.ne_nil_of_mem hd, n.numeric, n.points⟩, h⟩
  | pi => exact ⟨trivial, h⟩
  | bracketed inner ih =>
    rw [tokens, List.cons_append, List.append_assoc]
    exact ⟨trivial, ih ⟨trivial, h⟩⟩
  | factorial operand ih =>
    rw [tokens, List.append_assoc]
    exact ih ⟨trivial, h⟩
  | negated operand ih => exact ⟨rfl, ih h⟩
  | call f unary argument ih => exact ⟨trivial, ih h⟩
  | log base argument ih_base ih_argument =>
    rw [tokens, List.cons_append, List.cons_append, List.append_assoc, List.cons_append,
      List.append_assoc]
    exact ⟨trivial, trivial, ih_base ⟨trivial, ih_argument ⟨trivial, h⟩⟩⟩
  | binary sign left right ih_left ih_right =>
    have legible : (Token.operator (.binary sign)).IsLegible true := by
      cases sign <;> first | rfl | trivial
    rw [tokens, List.append_assoc]
    exact ih_left ⟨legible, ih_right h⟩
  | tight loose p ih => exact ih h

end Phrase

/-! ## What a conversion does with a phrase -/

namespace Conversion

variable {c : Conversion} {n : Nat} {ts us post : List Token} {o : Operator}

/-- The tokens `ts` move nothing that waits, and leave waiting only what has at least priority `n`;
together with it they put out `post`. -/
def Yields (c : Conversion) (n : Nat) (ts post : List Token) : Prop :=
  ∃ pending output, c.steps ts = .ok ⟨pending ++ c.waiting, output⟩ ∧
    (∀ w ∈ pending, n ≤ w.priority) ∧ output ++ pending.map Waiting.token = c.output ++ post

theorem head_waiting {w : Waiting} {waiting : List Waiting} (h : w.priority < n) :
    ∀ v ∈ (w :: waiting).head?, v.priority < n :=
  fun _ hv => Option.some.inj hv ▸ h

theorem yields_of_emit {t : Token} (h : c.step t = .ok (c.emit t)) : c.Yields n [t] [t] := by
  refine ⟨[], c.output.push t, ?_, by simp, by simp⟩
  rw [steps_cons, h]
  rfl

/-- An operator that waits in front of its last operand belongs behind it. -/
theorem yields_of_steps (h : c.steps ts = .ok ⟨.operator o :: c.waiting, c.output ++ post⟩)
    (le : n ≤ o.priority) : c.Yields n ts (post ++ [.operator o]) :=
  ⟨[.operator o], c.output ++ post, h, fun _ hw => List.mem_singleton.mp hw ▸ le,
    output_assoc _ _ _⟩

theorem steps_prefixed (h : o.precedesOperand = true) :
    c.steps [.operator o] = .ok ⟨.operator o :: c.waiting, c.output ++ ([] : List Token)⟩ := by
  rw [steps_cons, step, Except.bind_ok, addOperator, if_pos h]
  simp [push]

namespace Yields

theorem mono {m : Nat} (h : c.Yields n ts post) (le : m ≤ n) : c.Yields m ts post := by
  obtain ⟨pending, output, run, priority, out⟩ := h
  exact ⟨pending, output, run, fun w hw => le.trans (priority w hw), out⟩

/-- A flush that stops at what waited before moves exactly what is pending. -/
theorem steps_flush (h : c.Yields n ts post) {p : Waiting → Bool}
    (taken : ∀ w, n ≤ w.priority → p w = true) (stop : ∀ w ∈ c.waiting.head?, p w = false) :
    ∃ d, c.steps ts = .ok d ∧ d.flushWhile p = ⟨c.waiting, c.output ++ post⟩ := by
  obtain ⟨pending, output, run, priority, out⟩ := h
  refine ⟨_, run, ?_⟩
  rw [flushWhile_eq rfl (fun w hw => taken w (priority w hw)) stop, out]

/-- A sign or a factorial completes the phrase before it, and nothing more. -/
theorem steps_operator (h : c.Yields n ts post) (behind : o.precedesOperand = false)
    (le : o.priority ≤ n) (weaker : ∀ w ∈ c.waiting.head?, w.priority < o.priority) :
    c.steps (ts ++ [.operator o]) = .ok ⟨.operator o :: c.waiting, c.output ++ post⟩ := by
  obtain ⟨d, run, flush⟩ := h.steps_flush (p := fun w => decide (o.priority ≤ w.priority))
    (fun w hw => by simpa using le.trans hw) (fun w hw => by simpa using weaker w hw)
  rw [steps_append_of_ok run, steps_cons, step, addOperator, behind]
  simp only [Bool.false_eq_true, if_false, flush]
  rfl

/-- A phrase under a waiting operator, which belongs behind it. -/
theorem under {m : Nat} {post' : List Token}
    (h : c.steps ts = .ok ⟨.operator o :: c.waiting, c.output ++ post⟩)
    (phrase : Yields ⟨.operator o :: c.waiting, c.output ++ post⟩ n us post')
    (le : m ≤ n) (le' : m ≤ o.priority) :
    c.Yields m (ts ++ us) (post ++ post' ++ [.operator o]) := by
  obtain ⟨pending, output, run, priority, out⟩ := phrase
  refine ⟨pending ++ [.operator o], output, ?_, ?_, ?_⟩
  · rw [steps_append_of_ok h, run, List.append_assoc, List.singleton_append]
  · intro w hw
    rcases List.mem_append.mp hw with hw | hw
    · exact le.trans (priority w hw)
    · rw [List.mem_singleton.mp hw]
      exact le'
  · rw [List.map_append, ← output_assoc, out, output_assoc, output_assoc, List.append_assoc]
    rfl

end Yields

section Group

variable {waiting : List Waiting} {output : Array Token}

theorem Yields.flushGroup (h : Yields ⟨.bracket :: waiting, output⟩ n ts post)
    (above : Token.openingPriority < n) :
    ∃ d, Conversion.steps ⟨.bracket :: waiting, output⟩ ts = .ok d ∧
      d.flushGroup = ⟨.bracket :: waiting, output ++ post⟩ := by
  refine h.steps_flush ?_ (by simp)
  intro w hw
  cases w with
  | bracket => exact absurd hw (Nat.not_le_of_lt above)
  | operator o => rfl

/-- A comma completes the phrase before it, and leaves the bracket open. -/
theorem Yields.steps_comma (h : Yields ⟨.bracket :: waiting, output⟩ n ts post)
    (above : Token.openingPriority < n) :
    Conversion.steps ⟨.bracket :: waiting, output⟩ (ts ++ [.comma]) =
      .ok ⟨.bracket :: waiting, output ++ post⟩ := by
  obtain ⟨d, run, flush⟩ := h.flushGroup above
  rw [steps_append_of_ok run, steps_cons, step, flush]
  rfl

/-- A closing bracket completes the phrase before it, and removes its opening bracket. -/
theorem Yields.steps_closing (h : Yields ⟨.bracket :: waiting, output⟩ n ts post)
    (above : Token.openingPriority < n) :
    Conversion.steps ⟨.bracket :: waiting, output⟩ (ts ++ [.closing]) =
      .ok ⟨waiting, output ++ post⟩ := by
  obtain ⟨d, run, flush⟩ := h.flushGroup above
  rw [steps_append_of_ok run, steps_cons, step, closeGroup, flush]
  rfl

end Group

end Conversion

/-! ## The levels as priorities -/

namespace Phrase.Level

/-- What waits before a phrase must have a lower priority than this. -/
def limit : Level → Nat
  | sum => 2
  | product => 3
  | power => 4
  | prefixed | primary => 7

/-- What a phrase leaves waiting has at least this priority. -/
def floor : Level → Nat
  | sum => 2
  | product => 3
  | power => 4
  | prefixed => 5
  | primary => 7

theorem limit_le_tighter (l : Level) : l.limit ≤ l.tighter.limit := by
  cases l <;> decide

theorem floor_le_tighter (l : Level) : l.floor ≤ l.tighter.floor := by
  cases l <;> decide

theorem bracket_lt_limit (l : Level) : Waiting.bracket.priority < l.limit := by
  cases l <;> decide

theorem openingPriority_lt_floor (l : Level) : Token.openingPriority < l.floor := by
  cases l <;> decide

variable {o : Operator}

theorem priority_lt_limit (h : o.precedesOperand = true) : o.priority < prefixed.limit := by
  cases o with
  | binary sign | factorial => cases h
  | negation => exact Nat.lt_succ_self 6
  | function f => exact Nat.lt_add_of_pos_right (n := 5) (k := 2) Nat.two_pos

theorem floor_le_priority (h : o.precedesOperand = true) : prefixed.floor ≤ o.priority := by
  cases o with
  | binary sign | factorial => cases h
  | negation => exact Nat.le_succ 5
  | function f => exact Nat.le_refl 5

end Phrase.Level

namespace BinarySign

theorem limit_level (sign : BinarySign) : sign.level.limit = (Operator.binary sign).priority := by
  cases sign <;> rfl

theorem floor_level (sign : BinarySign) : sign.level.floor = (Operator.binary sign).priority := by
  cases sign <;> rfl

theorem priority_lt_tighter (sign : BinarySign) :
    (Operator.binary sign).priority < sign.level.tighter.limit := by
  cases sign <;> decide

end BinarySign

namespace Phrase

open Conversion

variable {level : Level}

/-- A symbol in front of its operand completes nothing, whatever waits before it. -/
theorem yields_of_prefixed {c : Conversion} {o : Operator} {ts post : List Token}
    (h : o.precedesOperand = true)
    (operand : ∀ {d : Conversion}, (∀ w ∈ d.waiting.head?, w.priority < Level.prefixed.limit) →
      d.Yields Level.prefixed.floor ts post) :
    c.Yields Level.prefixed.floor (.operator o :: ts) (post ++ [.operator o]) := by
  have phrase := operand (d := ⟨.operator o :: c.waiting, c.output ++ ([] : List Token)⟩)
    (head_waiting (Level.priority_lt_limit h))
  exact Yields.under (steps_prefixed h) phrase (Nat.le_refl _) (Level.floor_le_priority h)

/-- **The conversion of a phrase.** Whatever waits before it, as long as it binds more loosely, is
left where it is. -/
theorem yields (p : Phrase level) {c : Conversion}
    (weaker : ∀ w ∈ c.waiting.head?, w.priority < level.limit) :
    c.Yields level.floor p.tokens p.postorder := by
  induction p generalizing c with
  | numeral n => exact yields_of_emit rfl
  | pi => exact yields_of_emit rfl
  | bracketed inner ih =>
    -- the bracket hides what waits before it
    have phrase : Yields ⟨.bracket :: c.waiting, c.output⟩ _ _ _ :=
      ih (head_waiting (Level.bracket_lt_limit _))
    exact ⟨[], _, phrase.steps_closing (Level.openingPriority_lt_floor _), by simp,
      by simp [postorder]⟩
  | factorial operand ih =>
    -- factorials complete each other, so the operand may have left one waiting
    exact yields_of_steps ((ih weaker).steps_operator rfl (Nat.le_refl 7) weaker) (Nat.le_refl 7)
  | negated operand ih => exact yields_of_prefixed rfl ih
  | call f unary argument ih => exact yields_of_prefixed rfl ih
  | log base argument ih_base ih_argument =>
    let inside (output : Array Token) : Conversion :=
      ⟨.bracket :: .operator (.function .log) :: c.waiting, output⟩
    have before : c.steps [.operator (.function .log), .opening] = .ok (inside c.output) := rfl
    have comma : (inside c.output).steps (base.tokens ++ [.comma]) = _ :=
      (ih_base (head_waiting (Level.bracket_lt_limit _))).steps_comma
        (Level.openingPriority_lt_floor _)
    have closing : (inside (c.output ++ base.postorder)).steps
        (argument.tokens ++ [.closing]) = _ :=
      (ih_argument (head_waiting (Level.bracket_lt_limit _))).steps_closing
        (Level.openingPriority_lt_floor _)
    have run : c.steps (log base argument).tokens =
        .ok ⟨.operator (.function .log) :: c.waiting,
          c.output ++ (base.postorder ++ argument.postorder)⟩ := by
      have split : (log base argument).tokens = [.operator (.function .log), .opening] ++
          (base.tokens ++ [.comma] ++ (argument.tokens ++ [.closing])) := by simp [tokens]
      rw [split, steps_append_of_ok before, steps_append_of_ok comma, closing, output_assoc]
    exact yields_of_steps run (Nat.le_refl 5)
  | binary sign left right ih_left ih_right =>
    -- the sign completes what the left phrase has left waiting, and stops before what was there
    have loose : ∀ w ∈ c.waiting.head?, w.priority < (Operator.binary sign).priority :=
      sign.limit_level ▸ weaker
    have run := (ih_left weaker).steps_operator (o := .binary sign) rfl sign.floor_level.ge loose
    have phrase := Yields.under run (ih_right (head_waiting sign.priority_lt_tighter))
      sign.level.floor_le_tighter sign.floor_level.le
    simpa [tokens, postorder] using phrase
  | @tight level loose p ih =>
    -- a tighter phrase needs less of what waits before it, and leaves less waiting
    exact (ih fun w hw => (weaker w hw).trans_le level.limit_le_tighter).mono
      level.floor_le_tighter

theorem scan_of_spells (p : Phrase level) {s : String} (h : Spells p.tokens s.toList) :
    (Lexer.ofString s).scan = ⟨p.tokens, none⟩ := by
  have legible : Token.AreLegible false (p.tokens ++ []) := p.areLegible_tokens trivial
  rw [List.append_nil] at legible
  exact h.scan_eq legible (by simp)

/-- **Every text that spells a phrase has the postfix form of it**, under any settings. -/
theorem ofExpression_of_spells (p : Phrase .sum) {s : String} (h : Spells p.tokens s.toList)
    (r : Settings) : Postfix.ofExpression s r = .ok p.postorder := by
  have read := p.scan_of_spells h
  obtain ⟨pending, output, run, priority, out⟩ := p.yields (c := {}) (by simp)
  refine Postfix.ofExpression_eq_ok_iff.mpr ⟨by rw [read], _, by rw [read, run], ?_, ?_⟩
  · rintro ⟨-, bracket⟩
    rw [List.append_nil] at bracket
    exact absurd (priority _ bracket) (by decide)
  · have all := congrArg Array.toList out
    simpa [Conversion.tokens] using all

end Phrase

end DeskCalculator
