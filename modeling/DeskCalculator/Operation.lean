import DeskCalculator.Number.Gamma
import DeskCalculator.Token.Basic
import DeskCalculator.Failure

/-!
# Operations

What the symbols compute, and how strongly they bind.

## Main definitions

* `Operation`, `Operation.arity`: a function of at most two numbers
* `Operator.operation`: the operation of an operator
* `Token.operation`, `Token.priority`: the operation and the priority of a token, if it has one

## Main results

* `Token.operation_eq`: the operation of a token is looked up by its text
-/

namespace DeskCalculator

/-- A function of at most two numbers. -/
inductive Operation where
  | constant (value : Float)
  | unary (f : Float → Float)
  | binary (f : Float → Float → Float)

namespace Operation

/-- The number of operands an operation takes. -/
def arity : Operation → Nat
  | constant _ => 0
  | unary _ => 1
  | binary _ => 2

/-- The value of an operation on as many operands as it takes, the left one first; missing operands
are zero and further ones do not count. -/
def applyTo (op : Operation) (args : List Float) : Float :=
  match op with
  | constant value => value
  | unary f => f (args.getD 0 0)
  | binary f => f (args.getD 0 0) (args.getD 1 0)

end Operation

/-- The logarithm of `x` to a base. -/
def Operation.logToBase (base x : Float) : Float :=
  x.log / base.log

/-- The operation of a sign between two operands. -/
def BinarySign.apply : BinarySign → Float → Float → Float
  | plus => (· + ·)
  | minus => (· - ·)
  | times => (· * ·)
  | divide => (· / ·)
  | power => Float.pow

/-- The operation of a named function: `ln` is the natural and `lg` the decimal logarithm, and `log`
takes its base first. -/
def NamedFunction.operation : NamedFunction → Operation
  | exp => .unary Float.exp
  | ln => .unary Float.log
  | lg => .unary Float.log10
  | log => .binary Operation.logToBase
  | sqrt => .unary Float.sqrt
  | sin => .unary Float.sin
  | cos => .unary Float.cos
  | tan => .unary Float.tan
  | asin => .unary Float.asin
  | acos => .unary Float.acos
  | atan => .unary Float.atan
  | sinh => .unary Float.sinh
  | cosh => .unary Float.cosh
  | tanh => .unary Float.tanh

/-- The operation of an operator. -/
def Operator.operation : Operator → Operation
  | binary sign => .binary sign.apply
  | negation => .unary fun x => -x
  | factorial => .unary Number.factorial
  | function f => f.operation

namespace Token

/-- The operation of a token: operators and the constant have one. -/
def operation : Token → Except Failure Operation
  | pi => .ok (.constant Number.circleRatio)
  | operator o => .ok o.operation
  | t@(number _) | t@(unknown _ _) | t@opening | t@closing | t@comma =>
    .error (.unknownSymbol t.text)

/-- The operation of any token but a literal is looked up by its text: that of the constant or of
an operator that is written so, if there is one. -/
theorem operation_eq {t : Token} (h : t.isNumber = false) :
    t.operation =
      if t.text = "pi" then .ok (.constant Number.circleRatio)
      else match Operator.ofText? t.text with
        | some o => .ok o.operation
        | none => .error (.unknownSymbol t.text) := by
  cases t with
  | number literal => cases h
  | pi | opening | closing | comma => rfl
  | operator o =>
    have other : o.text ≠ "pi" := by
      intro same
      have read := o.ofText?_text
      rw [same] at read
      exact absurd read (by simp [show Operator.ofText? "pi" = none from rfl])
    simp [operation, text, other]
  | unknown word nameless => simp [operation, text, nameless.1, nameless.2]

/-- The priority of an opening bracket, lower than that of every operator. -/
def openingPriority : Nat := 1

/-- The priority of a closing bracket, higher than that of every operator. -/
def closingPriority : Nat := 8

/-- The priority of a token: operators and brackets have one, operands and the comma do not. -/
def priority : Token → Except Failure Nat
  | operator o => .ok o.priority
  | opening => .ok openingPriority
  | closing => .ok closingPriority
  | t@(number _) | t@pi | t@(unknown _ _) | t@comma => .error (.unknownSymbol t.text)

end Token

end DeskCalculator
