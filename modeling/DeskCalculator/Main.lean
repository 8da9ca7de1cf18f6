import DeskCalculator.Program

/-!
# The program

Reads the environment and writes the journal of the start to the standard error stream.
-/

namespace DeskCalculator

/-- A record on one line: its level, then its sentence. -/
def Record.line (r : Record) : String :=
  "[" ++ r.level.text ++ "] " ++ r.message

end DeskCalculator

/-- The program: its settings come from two variables, the threshold of the journal from a third. -/
def main : IO Unit := do
  let strict ← IO.getEnv "CALCULATRICE_STRICT"
  let digits ← IO.getEnv "CALCULATRICE_CHIFFRES"
  let threshold ← IO.getEnv "RUST_LOG"
  let environment : DeskCalculator.Environment :=
    ⟨strict.map String.toUTF8, digits.map String.toUTF8⟩
  for r in DeskCalculator.Program.startJournal environment threshold do
    IO.eprintln r.line
