/-!
# Operators and named functions

The symbols that wait for operands: five signs between two operands, the minus sign in front of
one, the factorial behind one, and fourteen named functions.

## Main definitions

* `BinarySign`, `NamedFunction`, `Operator`: the symbols
* `Operator.text`, `Operator.ofText?`: how a symbol is written, and the symbol of a text
* `Operator.priority`: which symbol takes an operand that stands between two of them
* `Operator.precedesOperand`: the symbols that stand in front of their operand
-/

namespace DeskCalculator

/-- The signs that stand between two operands. -/
inductive BinarySign where
  | plus | minus | times | divide | power
  deriving DecidableEq, Repr

/-- The character of a sign. -/
def BinarySign.char : BinarySign → Char
  | plus => '+'
  | minus => '-'
  | times => '*'
  | divide => '/'
  | power => '^'

/-- The functions that are called by name. -/
inductive NamedFunction where
  | exp | ln | lg | log | sqrt
  | sin | cos | tan | asin | acos | atan | sinh | cosh | tanh
  deriving DecidableEq, Repr

namespace NamedFunction

/-- All named functions. -/
def all : List NamedFunction :=
  [exp, ln, lg, log, sqrt, sin, cos, tan, asin, acos, atan, sinh, cosh, tanh]

theorem mem_all (f : NamedFunction) : f ∈ all := by
  cases f <;> decide

/-- The name by which a function is called. -/
def name : NamedFunction → String
  | exp => "exp"
  | ln => "ln"
  | lg => "lg"
  | log => "log"
  | sqrt => "sqrt"
  | sin => "sin"
  | cos => "cos"
  | tan => "tan"
  | asin => "asin"
  | acos => "acos"
  | atan => "atan"
  | sinh => "sinh"
  | cosh => "cosh"
  | tanh => "tanh"

end NamedFunction

/-- The symbols that wait for operands. -/
inductive Operator where
  /-- A sign between two operands. -/
  | binary (sign : BinarySign)
  /-- The minus sign in front of an operand. -/
  | negation
  /-- The exclamation mark behind an operand. -/
  | factorial
  /-- A function in front of its operand. -/
  | function (f : NamedFunction)
  deriving DecidableEq, Repr

namespace Operator

/-- How a symbol is written in postfix form. The sign in front of an operand is a tilde there, which
tells it from the sign between two operands. -/
def text : Operator → String
  | binary sign => sign.char.toString
  | negation => "~"
  | factorial => "!"
  | function f => f.name

/-- All symbols that wait for operands. -/
def all : List Operator :=
  [binary .plus, binary .minus, binary .times, binary .divide, binary .power, negation, factorial] ++
    NamedFunction.all.map function

theorem mem_all (o : Operator) : o ∈ all := by
  rcases o with sign | _ | _ | f
  · cases sign <;> decide
  · decide
  · decide
  · exact List.mem_append_right _ (List.mem_map_of_mem f.mem_all)

/-- The symbol that a text writes down. -/
def ofText? (s : String) : Option Operator :=
  all.find? fun o => o.text == s

@[simp] theorem ofText?_text (o : Operator) : ofText? o.text = some o := by
  rcases o with sign | _ | _ | f
  · cases sign <;> rfl
  · rfl
  · rfl
  · cases f <;> rfl

theorem text_of_ofText? {s : String} {o : Operator} (h : ofText? s = some o) : o.text = s := by
  simpa using List.find?_some h

/-- The priority of a symbol. Of two symbols that could take the same operand the one of higher
priority takes it. -/
def priority : Operator → Nat
  | binary .plus => 2
  | binary .minus => 2
  | binary .times => 3
  | binary .divide => 3
  | binary .power => 4
  | function _ => 5
  | negation => 6
  | factorial => 7

/-- Whether a symbol stands in front of its operand, so that no operand is complete before it. -/
def precedesOperand : Operator → Bool
  | negation | function _ => true
  | binary _ | factorial => false

end Operator

end DeskCalculator
