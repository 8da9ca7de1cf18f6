import DeskCalculator.Proofs.Postfix.Moves
import Mathlib.Data.List.Pairwise
import Mathlib.Data.List.Perm.Subperm
import Mathlib.Tactic.Push

/-!
# The queue of a conversion

The brackets of the queue divide it into groups. Functions and the minus sign in front of an operand
wait without a look at what is there already, so the priorities of a group need not fall from its
front to its back. But a sign between two operands has first taken away all that stood in front of
it: behind such a sign only signs of lower priority wait. Therefore a sign that comes may stop at
the first entry that it leaves, and has still taken all of its group that it can take.

## Main definitions

* `Waiting.Admits`: which entries may wait behind which
* `Waiting.group`: what waits in front of the latest bracket
* `Waiting.IsGroup`, `Waiting.AreGroups`: the order of one group, and of all groups of a queue

## Main results

* `Waiting.IsGroup.exists_eq_append_signs`: in a group the signs stand behind everything else
* `Conversion.addOperator_sign`: a sign takes all of its group that it can take
* `Conversion.areGroups_of_step`, `Conversion.areGroups_of_steps`: every run keeps the order
* `Conversion.waiting_in_groups`: the queue at every point of a run
-/

namespace DeskCalculator

namespace Waiting

variable {o : Operator} {s : BinarySign} {w : Waiting} {g ws : List Waiting}

/-! ## Priorities -/

/-- Signs between two operands have the lowest priorities of all operators. -/
theorem sign_priority_lt (other : ∀ r, o ≠ .binary r) (s : BinarySign) :
    (Operator.binary s).priority < o.priority := by
  have low : (Operator.binary s).priority ≤ 4 := by
    cases s <;> exact Nat.le_of_ble_eq_true rfl
  have high : 5 ≤ o.priority := by
    cases o with
    | binary r => exact absurd rfl (other r)
    | negation | factorial | function f => exact Nat.le_of_ble_eq_true rfl
  exact Nat.lt_of_le_of_lt low high

/-- Signs of strictly falling priority are at most three. -/
theorem length_le_three {signs : List BinarySign}
    (falling : signs.Pairwise fun a b =>
      (Operator.binary b).priority < (Operator.binary a).priority) : signs.length ≤ 3 := by
  let priorities := signs.map fun s => (Operator.binary s).priority
  have distinct : priorities.Nodup := by
    apply List.pairwise_map.mpr
    exact falling.imp Nat.ne_of_gt
  have within : priorities ⊆ [2, 3, 4] := by
    intro n hn
    obtain ⟨s, -, rfl⟩ := List.mem_map.mp hn
    cases s <;> simp [Operator.priority]
  have le : priorities.length ≤ [2, 3, 4].length := (distinct.subperm within).length_le
  rwa [List.length_map] at le

/-! ## One group -/

/-- Behind a sign only signs of lower priority may wait. Every other entry admits all. -/
def Admits (v w : Waiting) : Prop :=
  ∀ s, v = .operator (.binary s) → ∃ r, w = .operator (.binary r) ∧ w.priority < v.priority

theorem admits_of_other (other : ∀ r, o ≠ .binary r) (w : Waiting) : (operator o).Admits w := by
  intro s same
  exact absurd (operator.inj same) (other s)

/-- A sign admits what it has not taken. -/
theorem admits_of_lt (bracket : w ≠ .bracket) (lower : w.priority < (Operator.binary s).priority) :
    (operator (.binary s)).Admits w := by
  intro r same
  cases w with
  | bracket => exact absurd rfl bracket
  | operator o =>
    by_contra none
    have other : ∀ r, o ≠ .binary r := by
      rintro r rfl
      exact none ⟨r, rfl, lower⟩
    exact Nat.lt_asymm lower (sign_priority_lt other s)

/-- The order of a group, which holds no bracket. -/
structure IsGroup (g : List Waiting) : Prop where
  free : .bracket ∉ g
  ordered : g.Pairwise Admits

namespace IsGroup

theorem nil : IsGroup [] :=
  ⟨List.not_mem_nil, .nil⟩

theorem cons_iff : IsGroup (operator o :: g) ↔ (∀ w ∈ g, (operator o).Admits w) ∧ IsGroup g := by
  constructor
  · rintro ⟨free, ordered⟩
    obtain ⟨admits, ordered⟩ := List.pairwise_cons.mp ordered
    exact ⟨admits, fun later => free (List.mem_cons_of_mem _ later), ordered⟩
  · rintro ⟨admits, free, ordered⟩
    exact ⟨by simpa using free, List.pairwise_cons.mpr ⟨admits, ordered⟩⟩

/-- Induction along a group, which holds operators only. -/
@[elab_as_elim]
theorem induction {motive : (g : List Waiting) → IsGroup g → Prop} (nil : motive [] nil)
    (cons : ∀ o g (admits : ∀ w ∈ g, (operator o).Admits w) (group : IsGroup g),
      motive g group → motive (operator o :: g) (cons_iff.mpr ⟨admits, group⟩))
    {g : List Waiting} (h : IsGroup g) : motive g h := by
  induction g with
  | nil => exact nil
  | cons w g ih =>
    cases w with
    | bracket => exact absurd List.mem_cons_self h.free
    | operator o =>
      obtain ⟨admits, group⟩ := cons_iff.mp h
      exact cons o g admits group (ih group)

/-- **In a group the signs stand behind everything else**, in strictly falling priority. -/
theorem exists_eq_append_signs (h : IsGroup g) :
    ∃ (tight : List Operator) (signs : List BinarySign),
      g = tight.map operator ++ signs.map (fun s => operator (.binary s)) ∧
      (∀ o ∈ tight, o.precedesOperand = true ∨ o = .factorial) ∧
      signs.Pairwise fun a b => (Operator.binary b).priority < (Operator.binary a).priority := by
  induction h using IsGroup.induction with
  | nil => exact ⟨[], [], rfl, by simp, .nil⟩
  | cons o g admits group ih =>
    obtain ⟨tight, signs, rfl, unary, falling⟩ := ih
    by_cases sign : ∃ s, o = .binary s
    · obtain ⟨s, rfl⟩ := sign
      obtain rfl : tight = [] := by
        apply List.eq_nil_iff_forall_not_mem.mpr
        intro o ho
        obtain ⟨r, same, -⟩ := admits (operator o) (by simp [ho]) s rfl
        obtain rfl := operator.inj same
        exact absurd (unary _ ho) (by simp [Operator.precedesOperand])
      refine ⟨[], s :: signs, rfl, by simp, List.pairwise_cons.mpr ⟨?_, falling⟩⟩
      intro r hr
      obtain ⟨-, -, lower⟩ := admits (operator (.binary r)) (by simp [hr]) s rfl
      exact lower
    · have first : o.precedesOperand = true ∨ o = .factorial := by
        cases o with
        | binary s => exact absurd ⟨s, rfl⟩ sign
        | factorial => exact .inr rfl
        | negation | function f => exact .inl rfl
      exact ⟨o :: tight, signs, rfl, List.forall_mem_cons.mpr ⟨first, unary⟩, falling⟩

/-- A sign that stops at the first entry it leaves has taken all of the group that it can take. -/
theorem filter_append_filter (h : IsGroup g) (s : BinarySign) :
    g.filter ((Operator.binary s).priority ≤ ·.priority) ++
      g.filter (·.priority < (Operator.binary s).priority) = g := by
  induction h using IsGroup.induction with
  | nil => rfl
  | cons o g admits group ih =>
    rcases Nat.lt_or_ge (operator o).priority (Operator.binary s).priority with left | taken
    · -- the first entry that is left is a sign, and so are all behind it, of lower priorities
      have leaves : ∀ w ∈ g, w.priority < (Operator.binary s).priority := by
        intro w hw
        obtain ⟨r, rfl⟩ : ∃ r, o = .binary r := by
          by_contra! other
          exact Nat.lt_asymm left (sign_priority_lt other s)
        obtain ⟨-, -, lower⟩ := admits w hw r rfl
        exact Nat.lt_trans lower left
      have none : g.filter ((Operator.binary s).priority ≤ ·.priority) = [] := by
        apply List.filter_eq_nil_iff.mpr
        intro w hw
        simpa using leaves w hw
      have all : g.filter (·.priority < (Operator.binary s).priority) = g := by
        apply List.filter_eq_self.mpr
        intro w hw
        simpa using leaves w hw
      simp [left, Nat.not_le.mpr left, none, all]
    · simp [taken, Nat.not_lt.mpr taken, ih]

end IsGroup

/-! ## All groups of a queue -/

/-- What waits in front of the latest bracket, or all if there is none. -/
def group (ws : List Waiting) : List Waiting :=
  ws.takeWhile (· != .bracket)

/-- Behind its first group a queue has a bracket or ends. -/
theorem eq_bracket_of_head? (ws : List Waiting) :
    ∀ w ∈ (ws.dropWhile (· != .bracket)).head?, w = .bracket := by
  intro w hw
  have stopped := List.head?_dropWhile_not (· != Waiting.bracket) ws
  rw [Option.mem_def.mp hw] at stopped
  simpa using stopped

theorem group_append_dropWhile (free : .bracket ∉ g) (ws : List Waiting) :
    group (g ++ ws.dropWhile (· != .bracket)) = g := by
  have all : ∀ w ∈ g, (w != .bracket) = true := by
    intro w hw
    simpa using ne_of_mem_of_not_mem hw free
  have stop : (ws.dropWhile (· != .bracket)).takeWhile (· != .bracket) = [] := by
    have first := eq_bracket_of_head? ws
    cases left : ws.dropWhile (· != .bracket) with
    | nil => rfl
    | cons w ws =>
      obtain rfl := first w (by rw [left]; rfl)
      rfl
  rw [group, List.takeWhile_append_of_pos all, stop, List.append_nil]

/-- The order of all groups of a queue. -/
def AreGroups (ws : List Waiting) : Prop :=
  ∀ g ∈ ws.splitOn .bracket, IsGroup g

/-- What waits in front of the latest bracket is the first of the groups. -/
theorem exists_splitOn_eq_group_cons (ws : List Waiting) :
    ∃ groups, ws.splitOn .bracket = group ws :: groups := by
  induction ws with
  | nil => exact ⟨[], rfl⟩
  | cons w ws ih =>
    obtain ⟨groups, eq⟩ := ih
    rw [List.splitOn_cons_eq_if_modifyHead, eq]
    cases w with
    | bracket => exact ⟨_, rfl⟩
    | operator o => exact ⟨groups, rfl⟩

theorem areGroups_nil : AreGroups [] :=
  List.forall_mem_singleton.mpr .nil

theorem areGroups_cons_bracket : AreGroups (bracket :: ws) ↔ AreGroups ws := by
  have first : (bracket :: ws).splitOn .bracket = [] :: ws.splitOn .bracket := by
    rw [List.splitOn_cons_eq_if_modifyHead, if_pos (beq_self_eq_true bracket)]
  rw [AreGroups, first, List.forall_mem_cons]
  exact and_iff_right .nil

theorem areGroups_cons_operator :
    AreGroups (operator o :: ws) ↔ (∀ w ∈ group ws, (operator o).Admits w) ∧ AreGroups ws := by
  obtain ⟨groups, eq⟩ := exists_splitOn_eq_group_cons ws
  have first : (operator o :: ws).splitOn .bracket = (operator o :: group ws) :: groups := by
    rw [List.splitOn_cons_eq_if_modifyHead, eq]
    rfl
  rw [AreGroups, AreGroups, first, eq, List.forall_mem_cons, List.forall_mem_cons, IsGroup.cons_iff,
    and_assoc]

namespace AreGroups

theorem isGroup (h : AreGroups ws) : IsGroup (group ws) := by
  obtain ⟨groups, eq⟩ := exists_splitOn_eq_group_cons ws
  exact h _ (eq ▸ List.mem_cons_self)

/-- Entries leave a queue at its front, which keeps the order of what is left. -/
theorem of_suffix {vs : List Waiting} (h : AreGroups ws) (left : vs <:+ ws) : AreGroups vs := by
  obtain ⟨gone, rfl⟩ := left
  induction gone with
  | nil => exact h
  | cons w gone ih =>
    cases w with
    | bracket => exact ih (areGroups_cons_bracket.mp h)
    | operator o => exact ih (areGroups_cons_operator.mp h).2

end AreGroups

end Waiting

namespace Conversion

open Waiting

variable {c d : Conversion} {t : Token} {ts : List Token}

/-! ## Steps -/

theorem areGroups_of_releases (h : AreGroups c.waiting) (released : c.Releases d) :
    AreGroups d.waiting := by
  obtain ⟨os, waiting, -⟩ := released
  exact h.of_suffix ⟨_, waiting.symm⟩

/-- **A sign takes all of its group that it can take**, and nothing behind the bracket. -/
theorem addOperator_sign (h : AreGroups c.waiting) (s : BinarySign) :
    c.addOperator (.binary s) =
      { waiting := .operator (.binary s) ::
          ((group c.waiting).filter (·.priority < (Operator.binary s).priority) ++
            c.waiting.dropWhile (· != .bracket))
        output := c.output ++ ((group c.waiting).filter
          ((Operator.binary s).priority ≤ ·.priority)).map Waiting.token } := by
  have split : c.waiting =
      (group c.waiting).filter ((Operator.binary s).priority ≤ ·.priority) ++
        ((group c.waiting).filter (·.priority < (Operator.binary s).priority) ++
          c.waiting.dropWhile (· != .bracket)) := by
    rw [← List.append_assoc, h.isGroup.filter_append_filter]
    exact List.takeWhile_append_dropWhile.symm
  have taken : ∀ w ∈ (group c.waiting).filter ((Operator.binary s).priority ≤ ·.priority),
      decide ((Operator.binary s).priority ≤ w.priority) = true := by
    intro w hw
    exact (List.mem_filter.mp hw).2
  have stop : ∀ w ∈ ((group c.waiting).filter (·.priority < (Operator.binary s).priority) ++
      c.waiting.dropWhile (· != .bracket)).head?,
      decide ((Operator.binary s).priority ≤ w.priority) = false := by
    intro w hw
    rw [List.head?_append] at hw
    rcases Option.or_eq_some_iff.mp hw with left | ⟨-, behind⟩
    · have lower := (List.mem_filter.mp (List.mem_of_mem_head? left)).2
      simpa using lower
    · obtain rfl := eq_bracket_of_head? c.waiting w behind
      exact priority_le_bracket (.binary s)
  rw [addOperator, if_neg (by simp [Operator.precedesOperand]), flushWhile_eq split taken stop,
    push]

theorem areGroups_of_step (h : AreGroups c.waiting) (step : c.step t = .ok d) :
    AreGroups d.waiting := by
  cases moves_of_step step with
  | operand operand => exact h
  | opening => exact areGroups_cons_bracket.mpr h
  | comma released => exact areGroups_of_releases h released
  | closing released => exact areGroups_cons_bracket.mp (areGroups_of_releases h released)
  | @operator e o released =>
    refine areGroups_cons_operator.mpr ⟨fun w hw => ?_, areGroups_of_releases h released⟩
    by_cases sign : ∃ s, o = .binary s
    · obtain ⟨s, rfl⟩ := sign
      have added := (addOperator_sign h s).symm.trans (Except.ok.inj step)
      obtain ⟨-, left⟩ := List.cons.inj (congrArg waiting added)
      have free : .bracket ∉ group c.waiting := h.isGroup.free
      rw [← left, group_append_dropWhile fun mem => free (List.mem_filter.mp mem).1] at hw
      obtain ⟨mem, lower⟩ := List.mem_filter.mp hw
      exact admits_of_lt (ne_of_mem_of_not_mem mem free) (of_decide_eq_true lower)
    · exact admits_of_other (not_exists.mp sign) w

/-! ## Runs -/

theorem areGroups_of_steps (h : AreGroups c.waiting) (run : c.steps ts = .ok d) :
    AreGroups d.waiting := by
  induction ts generalizing c with
  | nil =>
    obtain rfl := Except.ok.inj run
    exact h
  | cons t ts ih =>
    obtain ⟨b, first, others⟩ := steps_cons_eq_ok_iff.mp run
    exact ih (areGroups_of_step h first) others

/-- **The queue at every point of a run.** Whatever has been read, each group of the queue consists
of operators in front of an operand and factorials, and behind them of at most three signs, in
strictly falling priority; this also holds of what is left when entries leave the queue at its
front. A sign that comes next takes from the latest group every entry whose priority is not lower
than its own, in their order, and waits in front of what it leaves; it reaches no bracket. -/
theorem waiting_in_groups (run : steps {} ts = .ok c) :
    (∀ ws, ws <:+ c.waiting → ∀ g ∈ ws.splitOn .bracket,
      ∃ (tight : List Operator) (signs : List BinarySign),
        g = tight.map .operator ++ signs.map (fun s => .operator (.binary s)) ∧
        (∀ o ∈ tight, o.precedesOperand = true ∨ o = .factorial) ∧
        signs.Pairwise (fun a b =>
          (Operator.binary b).priority < (Operator.binary a).priority) ∧
        signs.length ≤ 3) ∧
    ∀ s : BinarySign,
      let latest := c.waiting.takeWhile (· != .bracket)
      let priority := (Operator.binary s).priority
      c.step (.operator (.binary s)) = .ok
        { waiting := .operator (.binary s) ::
            (latest.filter (·.priority < priority) ++ c.waiting.dropWhile (· != .bracket))
          output := c.output ++ (latest.filter (priority ≤ ·.priority)).map Waiting.token } := by
  have groups : AreGroups c.waiting := areGroups_of_steps areGroups_nil run
  constructor
  · intro ws left g hg
    obtain ⟨tight, signs, eq, unary, falling⟩ := (groups.of_suffix left g hg).exists_eq_append_signs
    exact ⟨tight, signs, eq, unary, falling, length_le_three falling⟩
  · intro s latest priority
    exact congrArg Except.ok (addOperator_sign groups s)

/-- In `1 + (2 * -sin 3` the function waits in front of the minus sign, though its priority is
lower. A power that comes next takes both, and leaves the product and the bracket. -/
theorem waiting_in_groups_power :
    let sign (s : BinarySign) : Waiting := .operator (.binary s)
    let read : List Token := [.number "1", .operator (.binary .plus), .opening, .number "2",
      .operator (.binary .times), .operator .negation, .operator (.function .sin), .number "3"]
    ∃ c, steps {} read = .ok c ∧
      c.waiting = [.operator (.function .sin), .operator .negation, sign .times, .bracket,
        sign .plus] ∧
      (∀ g ∈ c.waiting.splitOn .bracket, ∃ (tight : List Operator) (signs : List BinarySign),
        g = tight.map .operator ++ signs.map sign ∧ signs.length ≤ 3) ∧
      ∃ d, c.step (.operator (.binary .power)) = .ok d ∧
        d.waiting = [sign .power, sign .times, .bracket, sign .plus] ∧
        d.output = c.output ++ [Token.operator (.function .sin), .operator .negation] := by
  intro sign read
  have run : steps {} read = .ok _ := rfl
  obtain ⟨groups, next⟩ := waiting_in_groups run
  refine ⟨_, run, rfl, ?_, _, next .power, rfl, rfl⟩
  intro g hg
  obtain ⟨tight, signs, eq, -, -, three⟩ := groups _ List.suffix_rfl g hg
  exact ⟨tight, signs, eq, three⟩

end Conversion

end DeskCalculator
