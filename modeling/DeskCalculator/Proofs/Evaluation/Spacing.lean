import DeskCalculator.Proofs.Evaluation.Strictness
import DeskCalculator.Proofs.Token.Respelling

/-!
# Blanks in an expression

What an expression comes to is decided by its tokens alone. Blanks may be put in and taken out
between them, as long as neighbours that would merge stay divided; those around the expression never
count, so that the entry of the desk may be trimmed.

## Main results

* `Expression.outcome_evaluate_congr`: expressions that read alike have the same outcome
* `Expression.evaluate_of_respelled`: every text that spells the tokens of an expression has its
  outcome
-/

namespace DeskCalculator

theorem Postfix.ofExpression_congr {a b : String}
    (same : (Lexer.ofString a).scan = (Lexer.ofString b).scan) (r : Settings) :
    ofExpression a r = ofExpression b r := by
  simp only [ofExpression, same]

namespace Expression

variable {a b s : String} {ts : List Token}

/-- An expression is evaluated, and its working written down, from its tokens. -/
theorem outcome_evaluate_congr (same : (Lexer.ofString a).scan = (Lexer.ofString b).scan)
    (r : Settings) : (evaluate a r).outcome = (evaluate b r).outcome := by
  simp only [outcome_evaluate, Postfix.ofExpression_congr same, working, same]

theorem tokens_eq_ok_iff : tokens s = .ok ts ↔ (Lexer.ofString s).scan = ⟨ts, none⟩ := by
  simp only [tokens]
  rcases (Lexer.ofString s).scan with ⟨us, _ | e⟩ <;> simp

/-- **Blanks between the tokens do not count.** Every text that spells the tokens of an expression,
with any blanks before, between and behind them, is read as the same tokens and has the same outcome
under any settings. The expression itself is such a text, and so is what is left of it without the
blanks around it. -/
theorem evaluate_of_respelled (read : tokens s = .ok ts) :
    (∀ s' : String, Spells ts s'.toList →
      tokens s' = .ok ts ∧ ∀ r, (evaluate s' r).outcome = (evaluate s r).outcome) ∧
    Spells ts s.toList ∧ Spells ts (Text.trim s).toList ∧
    ∀ r, (evaluate (Text.trim s) r).outcome = (evaluate s r).outcome := by
  rw [tokens_eq_ok_iff] at read
  obtain ⟨legible, spells⟩ := Lexer.scan_eq_iff_spells.mp read
  have respelled : ∀ s' : String, Spells ts s'.toList →
      tokens s' = .ok ts ∧ ∀ r, (evaluate s' r).outcome = (evaluate s r).outcome := by
    intro s' spells'
    have read' := Lexer.scan_eq_iff_spells.mpr ⟨legible, spells'⟩
    exact ⟨tokens_eq_ok_iff.mpr read', outcome_evaluate_congr (read'.trans read.symm)⟩
  exact ⟨respelled, spells, spells.trim legible, (respelled _ (spells.trim legible)).2⟩

/-- Only the two numbers and the two words of `-2 .5ln pi` must stay divided. -/
theorem evaluate_of_respelled_two_words :
    tokens "-2 .5ln pi" = .ok [.operator .negation, .number "2", .number ".5",
        .operator (.function .ln), .pi] ∧
      tokens " - 2\u3000.5 ln\tpi " = tokens "-2 .5ln pi" ∧
      (evaluate " - 2\u3000.5 ln\tpi " .lenient).outcome =
        (evaluate "-2 .5ln pi" .lenient).outcome := by
  have read : tokens "-2 .5ln pi" = .ok [.operator .negation, .number "2", .number ".5",
      .operator (.function .ln), .pi] := tokens_eq_ok_iff.mpr (by decide +kernel)
  have spelled : Spells [.operator .negation, .number "2", .number ".5",
      .operator (.function .ln), .pi] " - 2\u3000.5 ln\tpi ".toList := by
    have text : " - 2\u3000.5 ln\tpi ".toList = [' '] ++ ("-".toList ++ ([' '] ++ ("2".toList ++
        (['\u3000'] ++ (".5".toList ++ ([' '] ++ ("ln".toList ++ (['\t'] ++
        ("pi".toList ++ [' ']))))))))) := by decide
    have apart {t u : Token} (h : t.kind ≠ u.kind) (s : List Char) :
        ∀ v ∈ [u].head?, t.Merges v → ∃ c ∈ s.head?, Text.isBlank c = true := by
      simp [Token.Merges, h]
    have blank {c : Char} (h : Text.isBlank c = true) : ∀ d ∈ [c], Text.isBlank d = true := by
      simpa using h
    rw [text]
    exact .cons (blank rfl) (apart (by decide) _) <|
      .cons (blank rfl) (fun _ _ _ => ⟨'\u3000', rfl, rfl⟩) <|
      .cons (blank rfl) (apart (by decide) _) <|
      .cons (blank rfl) (fun _ _ _ => ⟨'\t', rfl, rfl⟩) <|
      .cons (blank rfl) (by simp) <| .nil (blank rfl)
  obtain ⟨respelled, outcome⟩ := (evaluate_of_respelled read).1 _ spelled
  exact ⟨read, respelled.trans read.symm, outcome .lenient⟩

end Expression

end DeskCalculator
