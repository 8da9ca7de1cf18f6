import DeskCalculator.Journal.Logged
import DeskCalculator.Number.Literal
import DeskCalculator.Postfix

/-!
# The stack machine

A postfix sequence is evaluated on a stack of values: a number is pushed, an operation replaces its
operands by its value.

## Main definitions

* `Operation.applyToStack`: an operation on the top of a stack
* `Machine.step`, `Machine.run`: what one token and what a sequence does to the stack
* `Machine.result`: the value at the end
* `Postfix.evaluate`: the value of a sequence
-/

namespace DeskCalculator

/-- The value of an operation on the top of a stack and the stack below its operands, if there are
enough. The right operand is on top of the left one. -/
def Operation.applyToStack : Operation → List Float → Option (Float × List Float)
  | constant value, stack => some (value, stack)
  | unary f, x :: stack => some (f x, stack)
  | binary f, y :: x :: stack => some (f x y, stack)
  | _, _ => none

namespace Machine

/-- What one token does to the stack, the top of which is first. -/
def step (stack : List Float) (t : Token) : Logged (List Float) :=
  match t with
  | .number literal =>
    match Number.readFloat? literal with
    | some value => pure (value :: stack)
    | none => .fail (.badNumber literal)
  | t => do
    let op ← .ofExcept t.operation
    match op.applyToStack stack with
    | some (value, below) => do
      .record (.applied t.text value (below.length + 1))
      pure (value :: below)
    | none => .fail (.missingOperands t.text stack.length op.arity)

/-- What a sequence of tokens does to the stack. -/
def run (stack : List Float) : List Token → Logged (List Float)
  | [] => pure stack
  | t :: ts => do
    let stack ← step stack t
    run stack ts

/-- The value at the end: the top of the stack, which must be alone if `strictStack`. -/
def result (stack : List Float) (strictStack : Bool) : Except Failure Float :=
  if strictStack && 1 < stack.length then .error (.leftoverValues stack.length)
  else match stack with
    | [] => .error .noExpression
    | value :: _ => .ok value

end Machine

/-- The value of a postfix sequence. -/
def Postfix.evaluate (ts : Postfix) (settings : Settings) : Logged Float := do
  let stack ← Machine.run [] ts
  let value ← .ofExcept (Machine.result stack settings.strictStack)
  .record (.evaluated value)
  pure value

end DeskCalculator
