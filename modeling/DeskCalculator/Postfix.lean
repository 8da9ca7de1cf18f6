import DeskCalculator.Operation
import DeskCalculator.Settings.Basic
import DeskCalculator.Token.Lexer

/-!
# Postfix form

An expression is brought into postfix form in one pass. Operands go to the output at once;
operators and opening brackets wait in a queue, the latest in front, until a later token shows that
their operands are complete.

## Main definitions

* `Waiting`: an entry of the queue
* `Conversion`: the output so far and the queue
* `Conversion.step`: what one token does
* `Conversion.finish`: what the end of the expression does
* `Postfix.ofExpression`: the postfix form of an expression
* `Postfix.ofText`: the postfix form that a text writes down
-/

namespace DeskCalculator

/-- A token that waits for its operands, or for its closing bracket. -/
inductive Waiting where
  | bracket
  | operator (o : Operator)
  deriving DecidableEq, Repr

namespace Waiting

/-- The token that waits. -/
def token : Waiting → Token
  | bracket => .opening
  | operator o => .operator o

/-- The priority of the token that waits; no operator reaches down to that of a bracket. -/
def priority : Waiting → Nat
  | bracket => Token.openingPriority
  | operator o => o.priority

end Waiting

/-- A conversion under way. -/
structure Conversion where
  /-- What waits, the latest in front. -/
  waiting : List Waiting := []
  /-- The output so far, in its final order. -/
  output : Array Token := #[]
  deriving DecidableEq, Repr

namespace Conversion

/-- Sends an operand to the output. -/
def emit (c : Conversion) (t : Token) : Conversion :=
  { c with output := c.output.push t }

/-- Lets a token wait. -/
def push (c : Conversion) (w : Waiting) : Conversion :=
  { c with waiting := w :: c.waiting }

/-- Moves what waits in front to the output, as long as it satisfies `p`, in its order. -/
def flushWhile (c : Conversion) (p : Waiting → Bool) : Conversion :=
  { waiting := c.waiting.dropWhile p
    output := c.output ++ (c.waiting.takeWhile p).map Waiting.token }

/-- Moves to the output what waits in front of the latest bracket, or all if there is none. -/
def flushGroup (c : Conversion) : Conversion :=
  c.flushWhile (· != .bracket)

/-- A closing bracket completes the group of the latest bracket, which leaves the queue. -/
def closeGroup (c : Conversion) : Except Failure Conversion :=
  let c := c.flushGroup
  match c.waiting with
  | [] => .error .unopenedBracket
  | _ :: waiting => .ok { c with waiting }

/-- An operator that comes behind an operand completes the waiting ones of the same or a higher
priority. One in front of its operand completes nothing. -/
def addOperator (c : Conversion) (o : Operator) : Conversion :=
  let c := if o.precedesOperand then c else c.flushWhile (o.priority ≤ ·.priority)
  c.push (.operator o)

/-- What one token does to a conversion. A comma completes what stands before it and waits for
nothing. -/
def step (c : Conversion) : Token → Except Failure Conversion
  | t@(.number _) | t@.pi => .ok (c.emit t)
  | .opening => .ok (c.push .bracket)
  | .closing => c.closeGroup
  | .comma => .ok c.flushGroup
  | .operator o => .ok (c.addOperator o)
  | .unknown word _ => .error (.unknownSymbol word)

/-- The end of the expression completes everything. A bracket that still waits is a failure if
`strictBrackets`, and goes to the output otherwise. -/
def finish (c : Conversion) (strictBrackets : Bool) : Except Failure (List Token) :=
  if strictBrackets && c.waiting.contains .bracket then .error .unclosedBracket
  else .ok (c.flushWhile fun _ => true).output.toList

/-- What a run of tokens does to a conversion. -/
def steps (c : Conversion) (ts : List Token) : Except Failure Conversion :=
  ts.foldlM step c

end Conversion

/-- A sequence of tokens in postfix form: operands stand before their operator. -/
abbrev Postfix := List Token

namespace Postfix

/-- The postfix form of an expression. Of several failures the first in reading order counts; one
of the end comes last. -/
def ofExpression (expression : String) (settings : Settings) : Except Failure Postfix := do
  let scan := (Lexer.ofString expression).scan
  let c ← Conversion.steps {} scan.tokens
  match scan.failure with
  | some e => .error e
  | none => c.finish settings.strictBrackets

/-- The postfix form that a text writes down: each word is a token of its own. -/
def ofText (text : String) : Postfix :=
  (Text.words text).map Token.ofText

end Postfix

end DeskCalculator
