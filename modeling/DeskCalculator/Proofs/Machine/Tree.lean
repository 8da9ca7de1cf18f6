import DeskCalculator.Machine
import Mathlib.Data.List.Basic
import Mathlib.Data.List.OfFn
import Mathlib.Order.Bounds.Defs

/-!
# Operation trees

The stack machine accepts exactly the sequences that write down operation trees in postorder, one
tree behind the other, and gives the value of the last one. A sequence writes down at most one list
of trees. In any other sequence the first token at fault decides the failure.

## Main definitions

* `OperationTree`: numbers and operations above as many trees as they take
* `OperationTree.value`, `OperationTree.postorder`: the value of a tree and its tokens
* `OperationTree.listTokens`: the tokens of trees, one behind the other
* `Machine.Fault`: why a token cannot be executed behind others

## Main results

* `OperationTree.outcome_run_listTokens`: the machine stacks the values of the trees
* `OperationTree.listTokens_injective`: a sequence writes down at most one list of trees
* `Machine.exists_trees_or_fault`: a sequence writes down trees, or trees up to a fault
* `Postfix.evaluate_decides_trees`: what the machine accepts, with which value, and how it fails
-/

namespace DeskCalculator

/-- The operation trees. -/
inductive OperationTree where
  /-- A literal that has a value. -/
  | number (literal : String) (readable : (Number.readFloat? literal).isSome = true)
  /-- A token that stands for an operation, above as many trees as the operation takes. -/
  | apply (t : Token) (op : Operation) (stands : t.operation = .ok op)
    (children : Fin op.arity → OperationTree)

namespace OperationTree

/-- The value of a tree: operations take the values of the trees below them, the left one first. -/
def value : OperationTree → Float
  | number literal readable => (Number.readFloat? literal).get readable
  | apply _ op _ children => op.applyTo (List.ofFn fun i => (children i).value)

/-- The tokens of a tree: those of the trees below an operation stand before it, the left ones
first. -/
def postorder : OperationTree → List Token
  | number literal _ => [.number literal]
  | apply t _ _ children => (List.ofFn fun i => (children i).postorder).flatten ++ [t]

/-- The tokens of trees, one behind the other. -/
def listTokens (f : List OperationTree) : List Token :=
  f.flatMap postorder

@[simp] theorem listTokens_nil : listTokens [] = [] := rfl

@[simp] theorem listTokens_cons (t : OperationTree) (f : List OperationTree) :
    listTokens (t :: f) = t.postorder ++ listTokens f := rfl

@[simp] theorem listTokens_append (f g : List OperationTree) :
    listTokens (f ++ g) = listTokens f ++ listTokens g := List.flatMap_append

theorem listTokens_singleton (t : OperationTree) : listTokens [t] = t.postorder := by simp

theorem postorder_apply (t : Token) (op : Operation) (stands : t.operation = .ok op)
    (children : Fin op.arity → OperationTree) :
    (apply t op stands children).postorder = listTokens (List.ofFn children) ++ [t] := by
  rw [postorder, listTokens, List.flatMap_def, List.map_ofFn]
  rfl

theorem postorder_ne_nil (t : OperationTree) : t.postorder ≠ [] := by
  cases t <;> simp [postorder]

end OperationTree

/-! ## One token -/

namespace Operation

/-- An operation finds its operands on top of the stack, the right one first. -/
theorem applyToStack_append (op : Operation) {args : List Float} (below : List Float)
    (h : args.length = op.arity) :
    op.applyToStack (args.reverse ++ below) = some (op.applyTo args, below) := by
  cases op with
  | constant value =>
    obtain rfl := List.length_eq_zero_iff.mp h
    rfl
  | unary f =>
    obtain ⟨x, rfl⟩ := List.length_eq_one_iff.mp h
    rfl
  | binary f =>
    obtain ⟨x, y, rfl⟩ := List.length_eq_two.mp h
    rfl

theorem applyToStack_eq_none {op : Operation} {stack : List Float}
    (h : stack.length < op.arity) : op.applyToStack stack = none := by
  cases op with
  | constant value => exact absurd h (Nat.not_lt_zero _)
  | unary f =>
    obtain rfl := List.length_eq_zero_iff.mp (Nat.lt_one_iff.mp h)
    rfl
  | binary f =>
    rcases stack with _ | ⟨x, _ | ⟨y, stack⟩⟩
    · rfl
    · rfl
    · exact absurd h (by simp [arity])

end Operation

namespace Machine

open OperationTree

/-- Why a token cannot be executed behind others: its number has no value, it stands for no
operation, or the tokens before it form fewer trees than its operation takes. -/
inductive Fault (before : List Token) : Token → Failure → Prop
  | badNumber {literal : String} (h : Number.readFloat? literal = none) :
    Fault before (.number literal) (.badNumber literal)
  | unknownSymbol {t : Token} (number : t.isNumber = false) (h : ∀ op, t.operation ≠ .ok op) :
    Fault before t (.unknownSymbol t.text)
  | missingOperands {t : Token} {op : Operation} {f : List OperationTree}
    (stands : t.operation = .ok op) (trees : listTokens f = before) (few : f.length < op.arity) :
    Fault before t (.missingOperands t.text f.length op.arity)

/-- The faults of a sequence at a position. -/
def FaultAt (ts : List Token) (i : Nat) (e : Failure) : Prop :=
  ∃ t ∈ ts[i]?, Fault (ts.take i) t e

theorem outcome_step_of_value {literal : String} {value : Float}
    (h : Number.readFloat? literal = some value) (stack : List Float) :
    (step stack (.number literal)).outcome = .ok (value :: stack) := by
  simp [step, h]

theorem outcome_step_of_operation {t : Token} {op : Operation} (stands : t.operation = .ok op)
    (stack : List Float) :
    (step stack t).outcome =
      match op.applyToStack stack with
      | some (value, below) => .ok (value :: below)
      | none => .error (.missingOperands t.text stack.length op.arity) := by
  have unfolded : (step stack t).outcome = (t.operation >>= fun op =>
      match op.applyToStack stack with
      | some (value, below) => .ok (value :: below)
      | none => .error (.missingOperands t.text stack.length op.arity)) := by
    cases t with
    | number literal => simp [Token.operation] at stands
    | unknown word | opening | closing | comma => rfl
    | pi | operator o =>
      simp only [step, Logged.outcome_bind, Logged.outcome_ofExcept]
      congr 1
      ext op : 1
      cases op.applyToStack stack <;> rfl
  rw [unfolded, stands]
  rfl

/-- An operation that finds its operands on top of the stack replaces them by its value. -/
theorem outcome_step_of_operands {t : Token} {op : Operation} (stands : t.operation = .ok op)
    {args : List Float} (size : args.length = op.arity) (stack : List Float) :
    (step (args.reverse ++ stack) t).outcome = .ok (op.applyTo args :: stack) := by
  rw [outcome_step_of_operation stands, op.applyToStack_append stack size]

/-- A token at fault fails on any stack that holds as many values as there are trees before it. -/
theorem outcome_step_of_fault {before : List Token} {t : Token} {e : Failure}
    (h : Fault before t e) {stack : List Float}
    (size : ∀ f, listTokens f = before → f.length = stack.length) :
    (step stack t).outcome = .error e := by
  cases h with
  | badNumber h => simp [step, h]
  | unknownSymbol number h =>
    cases t with
    | number literal => simp [Token.isNumber] at number
    | pi => exact absurd rfl (h _)
    | operator o => exact absurd rfl (h _)
    | unknown word | opening | closing | comma => rfl
  | missingOperands stands trees few =>
    rw [size _ trees] at few ⊢
    rw [outcome_step_of_operation stands, Operation.applyToStack_eq_none few]

/-! ## A run -/

@[simp] theorem outcome_run_nil (stack : List Float) : (run stack []).outcome = .ok stack := rfl

theorem outcome_run_cons (stack : List Float) (t : Token) (ts : List Token) :
    (run stack (t :: ts)).outcome =
      (step stack t).outcome >>= fun stack => (run stack ts).outcome :=
  Logged.outcome_bind _ _

theorem outcome_run_append (stack : List Float) (ts us : List Token) :
    (run stack (ts ++ us)).outcome =
      (run stack ts).outcome >>= fun stack => (run stack us).outcome := by
  induction ts generalizing stack with
  | nil => rfl
  | cons t ts ih =>
    rw [List.cons_append, outcome_run_cons, outcome_run_cons, bind_assoc]
    exact congrArg _ (funext ih)

theorem outcome_run_singleton (stack : List Float) (t : Token) :
    (run stack [t]).outcome = (step stack t).outcome := by
  rw [outcome_run_cons]
  cases (step stack t).outcome <;> rfl

end Machine

namespace OperationTree

open Machine

/-! ## Trees are executed -/

theorem outcome_run_listTokens_of_forall {f : List OperationTree}
    (h : ∀ t ∈ f, ∀ stack, (run stack t.postorder).outcome = .ok (t.value :: stack))
    (stack : List Float) :
    (run stack (listTokens f)).outcome = .ok ((f.map value).reverse ++ stack) := by
  induction f generalizing stack with
  | nil => rfl
  | cons t f ih =>
    rw [listTokens_cons, outcome_run_append, h t List.mem_cons_self]
    refine (ih (fun u hu => h u (List.mem_cons_of_mem _ hu)) _).trans ?_
    simp

/-- A tree is executed on any stack: its value is put on top. -/
theorem outcome_run_postorder (t : OperationTree) (stack : List Float) :
    (run stack t.postorder).outcome = .ok (t.value :: stack) := by
  induction t generalizing stack with
  | number literal readable =>
    rw [postorder, outcome_run_singleton]
    exact outcome_step_of_value (Option.some_get readable).symm stack
  | apply t op stands children ih =>
    have below : (run stack (listTokens (List.ofFn children))).outcome = _ :=
      outcome_run_listTokens_of_forall (List.forall_mem_ofFn_iff.mpr ih) stack
    rw [postorder_apply, outcome_run_append, below, List.map_ofFn]
    exact (outcome_run_singleton _ t).trans
      (outcome_step_of_operands stands List.length_ofFn stack)

/-- **Trees are executed.** Their values are put on the stack, the last one on top. -/
theorem outcome_run_listTokens (f : List OperationTree) (stack : List Float) :
    (run stack (listTokens f)).outcome = .ok ((f.map value).reverse ++ stack) :=
  outcome_run_listTokens_of_forall (fun t _ => outcome_run_postorder t) stack

/-! ## A sequence is read in one way -/

/-- The token that comes last in a tree. -/
def root : OperationTree → Token
  | number literal _ => .number literal
  | apply t _ _ _ => t

/-- The trees below the last token of a tree. -/
def operands : OperationTree → List OperationTree
  | number _ _ => []
  | apply _ _ _ children => List.ofFn children

theorem postorder_eq (t : OperationTree) : t.postorder = listTokens t.operands ++ [t.root] := by
  cases t with
  | number literal readable => rfl
  | apply t op stands children => exact postorder_apply t op stands children

/-- The last token tells how many trees are below it, and with them the tree. -/
theorem operands_of_root_eq {x y : OperationTree} (h : x.root = y.root) :
    x.operands.length = y.operands.length ∧ (x.operands = y.operands → x = y) := by
  cases x with
  | number literal readable =>
    cases y with
    | number literal' readable' =>
      obtain rfl : literal = literal' := Token.number.inj h
      exact ⟨rfl, fun _ => rfl⟩
    | apply t op stands children =>
      obtain rfl : .number literal = t := h
      exact absurd stands (by simp [Token.operation])
  | apply t op stands children =>
    cases y with
    | number literal readable =>
      obtain rfl : t = .number literal := h
      exact absurd stands (by simp [Token.operation])
    | apply t' op' stands' children' =>
      obtain rfl : t = t' := h
      obtain rfl : op = op' := Except.ok.inj (stands.symm.trans stands')
      refine ⟨by simp [operands], ?_⟩
      intro hb
      rw [List.ofFn_injective hb]

/-- **A sequence writes down at most one list of trees.** -/
theorem listTokens_injective : Function.Injective listTokens := by
  intro f g h
  induction hn : (listTokens f).length using Nat.strong_induction_on generalizing f g with
  | _ n ih =>
  subst hn
  rcases List.eq_nil_or_concat f with rfl | ⟨f, x, rfl⟩ <;>
    rcases List.eq_nil_or_concat g with rfl | ⟨g, y, rfl⟩
  · rfl
  · exact absurd h.symm (by simp [postorder_ne_nil])
  · exact absurd h (by simp [postorder_ne_nil])
  · -- the last roots are equal, and so have equally many trees below them: without the roots both
    -- sequences write down shorter lists of trees, to be split at the same place
    simp only [List.concat_eq_append, listTokens_append, listTokens_singleton, postorder_eq,
      ← List.append_assoc] at h ih ⊢
    simp only [← listTokens_append] at h ih
    obtain ⟨rest, roots⟩ := List.append_inj' h rfl
    obtain ⟨size, same⟩ := operands_of_root_eq (List.singleton_inj.mp roots)
    have shorter : (listTokens (f ++ x.operands)).length <
        (listTokens (f ++ x.operands) ++ [x.root]).length := by simp
    obtain ⟨hfg, hb⟩ := List.append_inj' (ih _ shorter rest rfl) size
    rw [hfg, same hb]

end OperationTree

namespace Machine

open OperationTree

/-! ## Trees or a fault -/

theorem exists_ofFn_eq {α : Type} {l : List α} {n : Nat} (h : l.length = n) :
    ∃ g : Fin n → α, List.ofFn g = l := by
  subst h
  exact ⟨l.get, List.ofFn_get l⟩

/-- Behind trees a token completes one more tree, or is at fault. -/
theorem exists_trees_concat_or_fault (f : List OperationTree) (t : Token) :
    (∃ g, listTokens g = listTokens f ++ [t]) ∨ ∃ e, Fault (listTokens f) t e := by
  by_cases number : t.isNumber = true
  · obtain ⟨literal, rfl⟩ : ∃ literal, t = .number literal := by
      cases t <;> simp_all [Token.isNumber]
    cases h : Number.readFloat? literal with
    | none => exact .inr ⟨_, .badNumber h⟩
    | some v =>
      refine .inl ⟨f ++ [.number literal (by rw [h]; rfl)], ?_⟩
      rw [listTokens_append, listTokens_singleton, postorder]
  · cases h : t.operation with
    | error e =>
      exact .inr ⟨_, .unknownSymbol (by simpa using number) fun op hop => by simp [h] at hop⟩
    | ok op =>
      rcases Nat.lt_or_ge f.length op.arity with few | enough
      · exact .inr ⟨_, .missingOperands h rfl few⟩
      · have size : (f.drop (f.length - op.arity)).length = op.arity := by
          rw [List.length_drop]
          omega
        obtain ⟨children, hc⟩ := exists_ofFn_eq size
        refine .inl ⟨f.take (f.length - op.arity) ++ [.apply t op h children], ?_⟩
        rw [listTokens_append, listTokens_singleton, postorder_apply, hc, ← List.append_assoc,
          ← listTokens_append, List.take_append_drop]

theorem exists_trees_or_fault_behind (f : List OperationTree) (ts : List Token) :
    (∃ g, listTokens g = listTokens f ++ ts) ∨
      ∃ g t after e, listTokens f ++ ts = listTokens g ++ t :: after ∧
        Fault (listTokens g) t e := by
  induction ts generalizing f with
  | nil => exact .inl ⟨f, (List.append_nil _).symm⟩
  | cons t ts ih =>
    rcases exists_trees_concat_or_fault f t with ⟨g, hg⟩ | ⟨e, fault⟩
    · have moved : listTokens f ++ t :: ts = listTokens g ++ ts := by simp [hg]
      rw [moved]
      exact ih g
    · exact .inr ⟨f, t, ts, e, rfl, fault⟩

/-- **A sequence writes down trees, or trees up to a token at fault.** -/
theorem exists_trees_or_fault (ts : List Token) :
    (∃ g, listTokens g = ts) ∨
      ∃ g t after e, ts = listTokens g ++ t :: after ∧ Fault (listTokens g) t e :=
  exists_trees_or_fault_behind [] ts

/-! ## Trees and faults decide the run -/

theorem outcome_run_of_fault {f : List OperationTree} {t : Token} {e : Failure}
    (h : Fault (listTokens f) t e) (after : List Token) :
    (run [] (listTokens f ++ t :: after)).outcome = .error e := by
  have size : ∀ g, listTokens g = listTokens f →
      g.length = ((f.map value).reverse ++ []).length := by
    intro g hg
    simp [listTokens_injective hg]
  rw [outcome_run_append, outcome_run_listTokens]
  refine (outcome_run_cons _ t after).trans ?_
  rw [outcome_step_of_fault h size]
  rfl

/-- Nothing is at fault in trees. -/
theorem not_fault_of_listTokens_eq {f g : List OperationTree} {t : Token} {after : List Token}
    (h : listTokens f = listTokens g ++ t :: after) (e : Failure) : ¬ Fault (listTokens g) t e := by
  intro fault
  have failed := outcome_run_of_fault fault after
  rw [← h, outcome_run_listTokens] at failed
  exact absurd failed (by simp)

/-- The first token at fault stands behind trees. -/
theorem isLeast_faultAt {f : List OperationTree} {t : Token} {e : Failure}
    (h : Fault (listTokens f) t e) (after : List Token) :
    IsLeast {i | ∃ e, FaultAt (listTokens f ++ t :: after) i e} (listTokens f).length := by
  constructor
  · exact ⟨e, t, by simp, by rwa [List.take_left]⟩
  · rintro i ⟨e', u, hu, fault⟩
    by_contra! lt
    rw [List.getElem?_append_left lt] at hu
    rw [List.take_append_of_le_length lt.le] at fault
    obtain ⟨hi, rfl⟩ := List.getElem?_eq_some_iff.mp hu
    have split : listTokens f =
        (listTokens f).take i ++ (listTokens f)[i] :: (listTokens f).drop (i + 1) := by
      rw [List.getElem_cons_drop, List.take_append_drop]
    -- what stands before the position writes down trees itself, or has a fault of its own
    rcases exists_trees_or_fault ((listTokens f).take i) with
      ⟨g, hg⟩ | ⟨g, v, after', e'', hb, fault'⟩
    · rw [← hg] at fault split
      exact not_fault_of_listTokens_eq split e' fault
    · rw [hb, List.append_assoc] at split
      exact not_fault_of_listTokens_eq split e'' fault'

end Machine

namespace Postfix

open OperationTree Machine

/-! ## The value of a sequence -/

theorem outcome_evaluate (ts : Postfix) (r : Settings) :
    (evaluate ts r).outcome =
      (run [] ts).outcome >>= fun stack => result stack r.strictStack := by
  simp only [evaluate, Logged.outcome_bind, Logged.outcome_ofExcept, Logged.outcome_record,
    Logged.outcome_pure]
  congr 1
  ext stack : 1
  cases result stack r.strictStack <;> rfl

/-- The value of trees is that of the last one; under the strict rule it must be alone. -/
theorem outcome_evaluate_listTokens (f : List OperationTree) (r : Settings) :
    (evaluate (listTokens f) r).outcome =
      if r.strictStack = true ∧ 1 < f.length then .error (.leftoverValues f.length)
      else match f.getLast? with
        | none => .error .noExpression
        | some t => .ok t.value := by
  rw [outcome_evaluate, outcome_run_listTokens]
  show result ((f.map value).reverse ++ []) r.strictStack = _
  rcases List.eq_nil_or_concat f with rfl | ⟨f, t, rfl⟩
  · simp [result]
  · simp [result]

theorem outcome_evaluate_of_fault {f : List OperationTree} {t : Token} {e : Failure}
    (h : Fault (listTokens f) t e) (after : List Token) (r : Settings) :
    (evaluate (listTokens f ++ t :: after) r).outcome = .error e := by
  rw [outcome_evaluate, outcome_run_of_fault h]
  rfl

/-- Trees have the value of the last one, if there is one and the rule for the stack holds. -/
theorem outcome_evaluate_listTokens_eq_ok {f : List OperationTree} {r : Settings} {v : Float} :
    (evaluate (listTokens f) r).outcome = .ok v ↔
      1 ≤ f.length ∧ (r.strictStack = true → f.length = 1) ∧ f.getLast?.map value = some v := by
  rw [outcome_evaluate_listTokens]
  rcases List.eq_nil_or_concat f with rfl | ⟨f, t, rfl⟩
  · simp
  · by_cases rule : r.strictStack = true ∧ 1 < (f ++ [t]).length
    · have many : (f ++ [t]).length ≠ 1 := rule.2.ne'
      simp only [List.concat_eq_append, rule, true_and, if_true, reduceCtorEq, false_iff]
      exact fun ⟨_, one, _⟩ => many (one trivial)
    · have alone : r.strictStack = true → f = [] := by
        intro strict
        by_contra more
        exact rule ⟨strict, by simpa using List.length_pos_iff.mpr more⟩
      rw [List.concat_eq_append, if_neg rule]
      simpa [List.getLast?_append] using fun _ => alone

theorem exists_trees_of_outcome_evaluate {ts : Postfix} {r : Settings} {v : Float}
    (h : (evaluate ts r).outcome = .ok v) : ∃ f, listTokens f = ts := by
  rcases exists_trees_or_fault ts with trees | ⟨f, t, after, e, rfl, fault⟩
  · exact trees
  · rw [outcome_evaluate_of_fault fault] at h
    exact absurd h (by simp)

/-- A sequence that writes down no trees fails for the first fault. -/
theorem outcome_evaluate_of_no_trees {ts : Postfix} (no_trees : ∀ f, listTokens f ≠ ts)
    (r : Settings) :
    ∃ i e, IsLeast {i | ∃ e, FaultAt ts i e} i ∧ FaultAt ts i e ∧
      (evaluate ts r).outcome = .error e := by
  rcases exists_trees_or_fault ts with ⟨f, hf⟩ | ⟨f, t, after, e, rfl, fault⟩
  · exact absurd hf (no_trees f)
  · exact ⟨_, e, isLeast_faultAt fault after, ⟨t, by simp, by rwa [List.take_left]⟩,
      outcome_evaluate_of_fault fault after r⟩

/-- **The evaluator decides the postfix language.** A sequence has a value exactly if it writes down
at least one tree, and exactly one under the strict rule; the value is that of the last tree, and
the trees are unique. More trees under the strict rule, no token at all, and the first token at
fault each have their failure. -/
theorem evaluate_decides_trees (ts : Postfix) (r : Settings) :
    (∀ v, (evaluate ts r).outcome = .ok v ↔
      ∃ f, listTokens f = ts ∧ 1 ≤ f.length ∧ (r.strictStack = true → f.length = 1) ∧
        f.getLast?.map value = some v) ∧
    (∀ f g, listTokens f = ts → listTokens g = ts → f = g) ∧
    (∀ f, listTokens f = ts → 2 ≤ f.length → r.strictStack = true →
      (evaluate ts r).outcome = .error (.leftoverValues f.length)) ∧
    (ts = [] → (evaluate ts r).outcome = .error .noExpression) ∧
    (ts ≠ [] → (∀ f, listTokens f ≠ ts) →
      ∃ i e, IsLeast {i | ∃ e, FaultAt ts i e} i ∧ FaultAt ts i e ∧
        (evaluate ts r).outcome = .error e) := by
  refine ⟨fun v => ⟨?_, ?_⟩, ?_, ?_, ?_, ?_⟩
  · intro h
    obtain ⟨f, rfl⟩ := exists_trees_of_outcome_evaluate h
    exact ⟨f, rfl, outcome_evaluate_listTokens_eq_ok.mp h⟩
  · rintro ⟨f, rfl, h⟩
    exact outcome_evaluate_listTokens_eq_ok.mpr h
  · intro f g hf hg
    exact listTokens_injective (hf.trans hg.symm)
  · rintro f rfl two strict
    rw [outcome_evaluate_listTokens, if_pos ⟨strict, two⟩]
  · rintro rfl
    exact (outcome_evaluate_listTokens [] r).trans (by simp)
  · intro _ no_trees
    exact outcome_evaluate_of_no_trees no_trees r

/-- Behind `2` the tokens `3 !` write down a second tree; `!` alone is at fault. -/
theorem evaluate_decides_trees_factorial :
    (∃ v, (evaluate [.number "2", .number "3", .operator .factorial] .standard).outcome = .ok v) ∧
      (evaluate [.number "2", .number "3", .operator .factorial] .strict).outcome =
        .error (.leftoverValues 2) ∧
      (evaluate [] .strict).outcome = .error .noExpression ∧
      ∃ i e, FaultAt [.operator .factorial] i e ∧
        (evaluate [.operator .factorial] .strict).outcome = .error e := by
  have two : (Number.readFloat? "2").isSome = true := by decide +kernel
  have three : (Number.readFloat? "3").isSome = true := by decide +kernel
  let f : List OperationTree :=
    [.number "2" two, .apply (.operator .factorial) _ rfl fun _ => .number "3" three]
  have missing : Fault (listTokens []) (.operator .factorial) _ :=
    .missingOperands (f := []) rfl rfl Nat.zero_lt_one
  obtain ⟨i, e, -, fault, failed⟩ :=
    (evaluate_decides_trees [.operator .factorial] .strict).2.2.2.2 (by simp) fun g hg =>
      not_fault_of_listTokens_eq hg _ missing
  exact ⟨⟨_, ((evaluate_decides_trees (listTokens f) .standard).1 _).mpr
      ⟨f, rfl, Nat.le_succ 1, by simp [Settings.standard], rfl⟩⟩,
    (evaluate_decides_trees (listTokens f) .strict).2.2.1 f rfl (Nat.le_refl 2) rfl,
    (evaluate_decides_trees [] .strict).2.2.2.1 rfl, i, e, fault, failed⟩

end Postfix

end DeskCalculator
