import DeskCalculator.Postfix

/-!
# Steps of a conversion

What one token does to a conversion, and a run of them. The tokens of a conversion, its output and
then what waits, are what the end of the expression would put out.

## Main definitions

* `Conversion.tokens`: the output, then what waits

## Main results

* `Conversion.flushWhile_eq`: a flush takes what satisfies its test, up to the first that does not
* `Conversion.steps_cons_eq_ok_iff`: a run succeeds step by step
* `Postfix.ofExpression_eq_ok_iff`: when an expression has a postfix form, and which
-/

namespace DeskCalculator

@[simp] theorem Except.bind_ok {ε α β : Type} (a : α) (f : α → Except ε β) :
    (Except.ok a >>= f) = f a := rfl

@[simp] theorem Except.bind_error {ε α β : Type} (e : ε) (f : α → Except ε β) :
    (Except.error e >>= f) = .error e := rfl

namespace Conversion

/-- The tokens of a conversion: its output, then what waits. -/
def tokens (c : Conversion) : List Token :=
  c.output.toList ++ c.waiting.map Waiting.token

theorem output_assoc (output : Array Token) (ts us : List Token) :
    output ++ ts ++ us = output ++ (ts ++ us) :=
  Array.ext' (by simp)

/-! ## Flushes -/

/-- A flush takes what satisfies its test, up to the first that does not. -/
theorem flushWhile_eq {c : Conversion} {p : Waiting → Bool} {pending waiting : List Waiting}
    (h : c.waiting = pending ++ waiting) (taken : ∀ w ∈ pending, p w = true)
    (stop : ∀ w ∈ waiting.head?, p w = false) :
    c.flushWhile p = ⟨waiting, c.output ++ pending.map Waiting.token⟩ := by
  have rest : waiting.takeWhile p = [] ∧ waiting.dropWhile p = waiting := by
    rcases waiting with _ | ⟨w, waiting⟩
    · exact ⟨rfl, rfl⟩
    · simp [stop w rfl]
  rw [flushWhile, h, List.takeWhile_append_of_pos taken, List.dropWhile_append_of_pos taken, rest.1,
    rest.2, List.append_nil]

/-- The flush for an operator stops at a bracket, since no operator reaches down to its priority. -/
theorem priority_le_bracket (o : Operator) :
    decide (o.priority ≤ Waiting.bracket.priority) = false := by
  rcases o with (_ | _ | _ | _ | _) | _ | _ | _ <;> rfl

/-! ## Runs -/

@[simp] theorem steps_nil (c : Conversion) : c.steps [] = .ok c := rfl

theorem steps_cons (c : Conversion) (t : Token) (ts : List Token) :
    c.steps (t :: ts) = c.step t >>= fun d => d.steps ts := rfl

theorem steps_cons_eq_ok_iff {c d : Conversion} {t : Token} {ts : List Token} :
    c.steps (t :: ts) = .ok d ↔ ∃ b, c.step t = .ok b ∧ b.steps ts = .ok d := by
  rw [steps_cons]
  cases c.step t <;> simp

theorem steps_append (c : Conversion) (ts us : List Token) :
    c.steps (ts ++ us) = c.steps ts >>= fun d => d.steps us :=
  List.foldlM_append

theorem steps_append_of_ok {c d : Conversion} {ts : List Token} (h : c.steps ts = .ok d)
    (us : List Token) : c.steps (ts ++ us) = d.steps us := by
  rw [steps_append, h]
  rfl

/-! ## The end -/

/-- The end puts everything out, unless a bracket waits that must be closed. -/
theorem finish_eq (c : Conversion) (strictBrackets : Bool) :
    c.finish strictBrackets =
      if strictBrackets = true ∧ .bracket ∈ c.waiting then .error .unclosedBracket
      else .ok c.tokens := by
  have all : (c.flushWhile fun _ => true) = ⟨[], c.output ++ c.waiting.map Waiting.token⟩ :=
    flushWhile_eq (List.append_nil _).symm (fun _ _ => rfl) (by simp)
  simp [finish, all, tokens]

end Conversion

/-- An expression has a postfix form if it can be read to its end, no step fails, and no bracket
that must be closed waits at the end; the form is the tokens of the conversion. -/
theorem Postfix.ofExpression_eq_ok_iff {expression : String} {s : Settings} {ts : Postfix} :
    ofExpression expression s = .ok ts ↔
      (Lexer.ofString expression).scan.failure = none ∧
        ∃ c : Conversion, Conversion.steps {} (Lexer.ofString expression).scan.tokens = .ok c ∧
          ¬ (s.strictBrackets = true ∧ .bracket ∈ c.waiting) ∧ c.tokens = ts := by
  simp only [ofExpression]
  cases hs : Conversion.steps {} (Lexer.ofString expression).scan.tokens with
  | error e => simp
  | ok c =>
    cases (Lexer.ofString expression).scan.failure with
    | some e => simp
    | none =>
      simp only [Except.bind_ok, Conversion.finish_eq]
      split <;> simp_all

end DeskCalculator
