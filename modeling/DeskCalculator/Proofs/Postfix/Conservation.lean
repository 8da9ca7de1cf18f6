import DeskCalculator.Proofs.Postfix.Moves
import Mathlib.Data.List.Infix

/-!
# Conservation of tokens

The conversion puts out every token that was read, once: commas are dropped, and a closing bracket
is dropped together with the opening one that it closes. Operands keep their order.

## Main definitions

* `Token.IsClosedIn`: whether a bracket that was opened before a row of tokens is closed in it
* `Token.unpaired`: the tokens without commas and without pairs of brackets

## Main results

* `Conversion.Moves.perm_tokens`, `Conversion.Path.perm_tokens`: a move keeps the tokens, and a run
* `Conversion.Path.filter_isOperand`: a run keeps the order of the operands
* `Postfix.ofExpression_conserves_tokens`: the postfix form has the tokens of the expression
-/

namespace DeskCalculator

/-! ## Pairs of brackets -/

namespace Token

/-- Whether a bracket that was opened just before `ts` is closed in `ts`: some part at the start of
`ts` closes more brackets than it opens. -/
def IsClosedIn (ts : List Token) : Prop :=
  ∃ us, us <+: ts ∧ us.count opening < us.count closing

instance : DecidablePred IsClosedIn := fun ts =>
  decidable_of_iff (∃ us ∈ ts.inits, us.count opening < us.count closing)
    (by simp [IsClosedIn, List.mem_inits])

/-- The tokens without commas, closing brackets, and the opening brackets that are closed. -/
def unpaired : List Token → List Token
  | [] => []
  | opening :: ts => if IsClosedIn ts then unpaired ts else opening :: unpaired ts
  | closing :: ts | comma :: ts => unpaired ts
  | t :: ts => t :: unpaired ts

/-- The number of closing brackets that close a bracket opened before the tokens. -/
def unopened : List Token → Nat
  | [] => 0
  | opening :: ts => unopened ts - 1
  | closing :: ts => unopened ts + 1
  | _ :: ts => unopened ts

variable {t : Token} {ts : List Token}

theorem unopened_cons (opens : t ≠ opening) (closes : t ≠ closing) :
    unopened (t :: ts) = unopened ts := by
  cases t with
  | opening => exact absurd rfl opens
  | closing => exact absurd rfl closes
  | _ => rfl

/-- The closing brackets without a partner, counted by the parts at the start of the tokens. -/
theorem le_unopened_iff {n : Nat} :
    n ≤ unopened ts ↔ ∃ us, us <+: ts ∧ n + us.count opening ≤ us.count closing := by
  induction ts generalizing n with
  | nil => simp [unopened]
  | cons t ts ih =>
    rcases n with _ | n
    · exact ⟨fun _ => ⟨[], List.nil_prefix, Nat.le_refl 0⟩, fun _ => Nat.zero_le _⟩
    · -- the empty part closes nothing, so the part that counts starts with the first token
      have nonempty : (∃ us, us <+: t :: ts ∧ n + 1 + us.count opening ≤ us.count closing) ↔
          ∃ us, us <+: ts ∧ n + 1 + (t :: us).count opening ≤ (t :: us).count closing := by
        simp [List.prefix_cons_iff, or_and_right, exists_or]
      rw [nonempty]
      by_cases opens : t = opening
      · subst opens
        have shift : n + 1 ≤ unopened (opening :: ts) ↔ n + 2 ≤ unopened ts := by
          simp only [unopened]
          omega
        simp [shift, ih, Nat.add_comm, Nat.add_left_comm]
      · by_cases closes : t = closing
        · subst closes
          simp [unopened, ih, Nat.add_right_comm]
        · simp [unopened_cons opens closes, ih, opens, closes]

theorem isClosedIn_iff : IsClosedIn ts ↔ 0 < unopened ts := by
  rw [← Nat.succ_le_iff, le_unopened_iff]
  simp only [IsClosedIn, ← Nat.succ_le_iff, Nat.succ_eq_add_one, Nat.add_comm]

theorem unpaired_cons (opens : t ≠ opening) (closes : t ≠ closing) (divides : t ≠ comma) :
    unpaired (t :: ts) = t :: unpaired ts := by
  cases t with
  | opening => exact absurd rfl opens
  | closing => exact absurd rfl closes
  | comma => exact absurd rfl divides
  | _ => rfl

theorem mem_unpaired (h : t ∈ unpaired ts) : t ∈ ts ∧ t ≠ closing ∧ t ≠ comma := by
  fun_induction unpaired ts with
  | case1 => cases h
  | case2 ts closed ih => exact (ih h).imp_left (List.mem_cons_of_mem _)
  | case3 ts unclosed ih =>
    rcases List.mem_cons.mp h with rfl | later
    · exact ⟨List.mem_cons_self, by decide, by decide⟩
    · exact (ih later).imp_left (List.mem_cons_of_mem _)
  | case4 ts ih | case5 ts ih => exact (ih h).imp_left (List.mem_cons_of_mem _)
  | case6 u ts _ closes divides ih =>
    rcases List.mem_cons.mp h with rfl | later
    · exact ⟨List.mem_cons_self, closes, divides⟩
    · exact (ih later).imp_left (List.mem_cons_of_mem _)

/-- Of the opening brackets as many are left as find no closing one. -/
theorem count_opening_unpaired (ts : List Token) :
    (unpaired ts).count opening + ts.count closing = ts.count opening + unopened ts := by
  fun_induction unpaired ts with
  | case1 => rfl
  | case2 ts closed ih =>
    -- the bracket has a partner, which is one of the closing brackets too many in the rest
    have partner := isClosedIn_iff.mp closed
    simp only [unopened, List.count_cons_self]
    simp
    omega
  | case3 ts unclosed ih =>
    have none : unopened ts = 0 := by
      simpa [isClosedIn_iff] using unclosed
    simp [unopened, none] at ih ⊢
    omega
  | case4 ts ih =>
    simp [unopened]
    omega
  | case5 ts ih => simpa [unopened] using ih
  | case6 u ts opens closes divides ih =>
    rw [unopened_cons opens closes, List.count_cons_of_ne opens, List.count_cons_of_ne opens,
      List.count_cons_of_ne closes]
    exact ih

end Token

/-! ## What a conversion keeps -/

namespace Conversion

open Token

variable {c d : Conversion} {t : Token} {ts : List Token}

theorem perm_tokens_emit (c : Conversion) (t : Token) : (c.emit t).tokens.Perm (t :: c.tokens) := by
  simp [tokens, emit, List.perm_middle]

theorem perm_tokens_push (c : Conversion) (w : Waiting) :
    (c.push w).tokens.Perm (w.token :: c.tokens) := by
  simp [tokens, push, List.perm_middle]

/-- A move leaves it as it is whether enough brackets wait for those that are closed in the rest
without being opened there. -/
theorem Moves.unopened_le_iff (h : c.Moves t d) (ts : List Token) :
    unopened (t :: ts) ≤ c.waiting.count .bracket ↔ unopened ts ≤ d.waiting.count .bracket := by
  have step := h.count_bracket
  by_cases opens : t = .opening
  · subst opens
    simp [unopened] at step ⊢
    omega
  · by_cases closes : t = .closing
    · subst closes
      simp [unopened] at step ⊢
      omega
    · rw [unopened_cons opens closes]
      simp [opens, closes] at step
      omega

/-- No closing bracket finds an opening one that was not there. -/
theorem Path.unopened_le (h : c.Path ts d) : unopened ts ≤ c.waiting.count .bracket := by
  induction h with
  | nil => exact Nat.zero_le _
  | @cons c b d t ts move rest ih => exact (move.unopened_le_iff ts).mpr ih

/-- What a move keeps of the tokens, those that are still to be read included. A bracket that is
closed in the rest without being opened there is missing from the conversion in the end, so it
counts on the other side. -/
theorem Moves.perm_tokens (h : c.Moves t d) (ts : List Token) :
    (d.tokens ++ (unpaired ts ++ List.replicate (unopened (t :: ts)) Token.opening)).Perm
      (c.tokens ++ (unpaired (t :: ts) ++ List.replicate (unopened ts) Token.opening)) := by
  cases h with
  | operand operand =>
    have opens : t ≠ .opening := by rintro rfl; cases operand
    have closes : t ≠ .closing := by rintro rfl; cases operand
    have divides : t ≠ .comma := by rintro rfl; cases operand
    rw [unopened_cons opens closes, unpaired_cons opens closes divides]
    exact ((perm_tokens_emit c t).append_right _).trans List.perm_middle.symm
  | opening =>
    have added := perm_tokens_push c .bracket
    by_cases closed : IsClosedIn ts
    · obtain ⟨n, partners⟩ := Nat.exists_eq_add_of_lt (isClosedIn_iff.mp closed)
      rw [Nat.zero_add] at partners
      rw [unopened, unpaired, if_pos closed, partners, Nat.add_sub_cancel, List.replicate_succ]
      refine (added.append_right _).trans ?_
      rw [← List.append_assoc, ← List.append_assoc]
      exact List.perm_middle.symm
    · have none : unopened ts = 0 := by
        simpa [isClosedIn_iff] using closed
      rw [unopened, unpaired, if_neg closed, none]
      exact (added.append_right _).trans List.perm_middle.symm
  | operator o released =>
    rw [← released.tokens_eq]
    exact ((perm_tokens_push _ (.operator o)).append_right _).trans List.perm_middle.symm
  | comma released =>
    rw [released.tokens_eq]
    exact .refl _
  | closing released =>
    have partner := perm_tokens_push d .bracket
    rw [released.tokens_eq] at partner
    rw [unopened, List.replicate_succ, ← List.append_assoc]
    refine List.perm_middle.trans ?_
    rw [List.append_assoc]
    exact (partner.symm.append_right _)

/-- **A run keeps the tokens**, but for commas and pairs of brackets. The brackets that are closed
without being opened in the run were there before it. -/
theorem Path.perm_tokens (h : c.Path ts d) :
    (d.tokens ++ List.replicate (unopened ts) Token.opening).Perm (c.tokens ++ unpaired ts) := by
  induction h with
  | nil => simp [unopened, unpaired]
  | @cons c b d t ts move rest ih =>
    have step := move.perm_tokens ts
    simp only [List.perm_iff_count, List.count_append] at ih step ⊢
    intro u
    have step := step u
    have run := ih u
    omega

theorem filter_isOperand_tokens (c : Conversion) :
    c.tokens.filter isOperand = c.output.toList.filter isOperand := by
  have none : (c.waiting.map Waiting.token).filter isOperand = [] := by
    rw [List.filter_eq_nil_iff]
    rintro t ht
    obtain ⟨w, -, rfl⟩ := List.mem_map.mp ht
    cases w <;> simp [Waiting.token, isOperand]
  rw [tokens, List.filter_append, none, List.append_nil]

theorem filter_isOperand_push (c : Conversion) (w : Waiting) :
    (c.push w).tokens.filter isOperand = c.tokens.filter isOperand := by
  rw [filter_isOperand_tokens, filter_isOperand_tokens, push]

/-- Only the operand that is read comes behind the others. -/
theorem Moves.filter_isOperand (h : c.Moves t d) :
    d.tokens.filter isOperand = c.tokens.filter isOperand ++ [t].filter isOperand := by
  cases h with
  | operand operand => simp [filter_isOperand_tokens, emit, operand]
  | opening => simp [filter_isOperand_push, isOperand]
  | operator o released => simp [filter_isOperand_push, released.tokens_eq, isOperand]
  | comma released => simp [released.tokens_eq, isOperand]
  | closing released =>
    rw [← released.tokens_eq, filter_isOperand_push]
    simp [isOperand]

/-- **A run keeps the order of the operands.** -/
theorem Path.filter_isOperand (h : c.Path ts d) :
    d.tokens.filter isOperand = c.tokens.filter isOperand ++ ts.filter isOperand := by
  induction h with
  | nil => simp
  | @cons c b d t ts move rest ih =>
    rw [ih, move.filter_isOperand, List.append_assoc, ← List.filter_append, List.singleton_append]

section Start

variable (run : steps {} ts = .ok c)

include run

/-- From the start, no closing bracket is without a partner. -/
theorem perm_unpaired_of_steps : c.tokens.Perm (unpaired ts) := by
  have path := path_of_steps run
  have none : unopened ts = 0 := Nat.le_zero.mp path.unopened_le
  simpa [none, tokens] using path.perm_tokens

/-- The opening brackets among the tokens are those that wait; none has been put out. -/
theorem count_opening_tokens : c.tokens.count .opening = c.waiting.count .bracket := by
  have path := path_of_steps run
  have none : unopened ts = 0 := Nat.le_zero.mp path.unopened_le
  have left := count_opening_unpaired ts
  have waiting := path.count_bracket
  rw [(perm_unpaired_of_steps run).count_eq]
  simp at waiting
  omega

theorem opening_mem_tokens_iff : .opening ∈ c.tokens ↔ .bracket ∈ c.waiting := by
  rw [← List.count_pos_iff, ← List.count_pos_iff, count_opening_tokens run]

end Start

end Conversion

open Conversion in
/-- **The conversion conserves the tokens.** The postfix form of an expression has its tokens, but
for commas and pairs of brackets, in another order. Only opening brackets without a partner are left
of the brackets, and none under the strict rule. The operands stand in the order in which they were
read. -/
theorem Postfix.ofExpression_conserves_tokens {expression : String} {r : Settings} {p : Postfix}
    (h : ofExpression expression r = .ok p) :
    ∃ ts, Expression.tokens expression = .ok ts ∧ p.Perm (Token.unpaired ts) ∧
      .closing ∉ p ∧ .comma ∉ p ∧ (r.strictBrackets = true → .opening ∉ p) ∧
      p.count .opening + ts.count .closing = ts.count .opening ∧
      p.filter Token.isOperand = ts.filter Token.isOperand := by
  obtain ⟨read, c, run, closed, rfl⟩ := ofExpression_eq_ok_iff.mp h
  have kept := perm_unpaired_of_steps run
  refine ⟨_, by rw [Expression.tokens, read], kept, ?_, ?_, ?_, ?_, ?_⟩
  · intro mem
    exact (Token.mem_unpaired (kept.mem_iff.mp mem)).2.1 rfl
  · intro mem
    exact (Token.mem_unpaired (kept.mem_iff.mp mem)).2.2 rfl
  · intro strict mem
    exact closed ⟨strict, (opening_mem_tokens_iff run).mp mem⟩
  · rw [count_opening_tokens run, (path_of_steps run).count_bracket]
    exact Nat.zero_add _
  · exact (path_of_steps run).filter_isOperand

/-- The first bracket has a partner, the second one is left over. -/
theorem Postfix.ofExpression_conserves_tokens_open_bracket :
    ofExpression "(2 3),(4!-" .lenient = .ok [.number "2", .number "3", .number "4",
        .operator .factorial, .operator (.binary .minus), .opening] ∧
      ∃ ts, Expression.tokens "(2 3),(4!-" = .ok ts ∧
        Token.unpaired ts = [.number "2", .number "3", .opening, .number "4",
          .operator .factorial, .operator (.binary .minus)] ∧
        List.Perm [.number "2", .number "3", .number "4", .operator .factorial,
          .operator (.binary .minus), .opening] (Token.unpaired ts) := by
  have read : (Lexer.ofString "(2 3),(4!-").scan = ⟨[.opening, .number "2", .number "3", .closing,
      .comma, .opening, .number "4", .operator .factorial, .operator (.binary .minus)], none⟩ := by
    decide +kernel
  have form : ofExpression "(2 3),(4!-" .lenient = .ok [.number "2", .number "3", .number "4",
      .operator .factorial, .operator (.binary .minus), .opening] := by
    rw [ofExpression, read]
    rfl
  obtain ⟨ts, tokens, kept, -⟩ := ofExpression_conserves_tokens form
  refine ⟨form, ts, tokens, ?_, kept⟩
  rw [Expression.tokens, read] at tokens
  obtain rfl := Except.ok.inj tokens
  decide

end DeskCalculator
