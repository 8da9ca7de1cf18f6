import DeskCalculator.Operator
import DeskCalculator.Text.Basic

/-!
# Tokens

The units of an expression: numbers, the constant pi, operators, words that name nothing, brackets
and the comma.

## Main definitions

* `Token`, `Token.text`: the tokens and how they are written in postfix form
* `Token.IsNameless`: the words that stand for no operation
* `Token.Kind`, `Token.kind`: their lexical kinds
* `Token.ofText`: the token of an isolated piece of text
* `Token.precedesOperand`, `Token.completesOperand`: how a token stands to its operands
* `Token.listText`: tokens in a row, divided by spaces
-/

namespace DeskCalculator

/-- Whether a text is the symbol of no operation: neither the constant nor an operator. -/
def Token.IsNameless (s : String) : Prop :=
  s ≠ "pi" ∧ Operator.ofText? s = none

instance (s : String) : Decidable (Token.IsNameless s) :=
  inferInstanceAs (Decidable (_ ∧ _))

/-- The units of an expression. -/
inductive Token where
  /-- A literal, not read yet. -/
  | number (literal : String)
  /-- The constant pi. -/
  | pi
  /-- A symbol that waits for operands. -/
  | operator (o : Operator)
  /-- A word that is the symbol of no operation. -/
  | unknown (word : String) (nameless : Token.IsNameless word := by decide)
  | opening
  | closing
  | comma
  deriving DecidableEq, Repr

namespace Token

/-- The lexical kinds: words are spelled with letters, operators are single signs. -/
inductive Kind where
  | number | operator | word | opening | closing | comma
  deriving DecidableEq, Repr

/-- The lexical kind of a token. Named functions and the constant are words. -/
def kind : Token → Kind
  | number _ => .number
  | pi => .word
  | operator (.function _) => .word
  | operator _ => .operator
  | unknown _ _ => .word
  | opening => .opening
  | closing => .closing
  | comma => .comma

/-- How a token is written in postfix form. -/
def text : Token → String
  | number literal => literal
  | pi => "pi"
  | operator o => o.text
  | unknown word _ => word
  | opening => "("
  | closing => ")"
  | comma => ","

/-- The tokens that are one character long in an expression. -/
def ofSign? : Char → Option Token
  | '(' => some opening
  | ')' => some closing
  | ',' => some comma
  | '+' => some (operator (.binary .plus))
  | '-' => some (operator (.binary .minus))
  | '*' => some (operator (.binary .times))
  | '/' => some (operator (.binary .divide))
  | '^' => some (operator (.binary .power))
  | '!' => some (operator .factorial)
  | _ => none

/-- The token of a word. -/
def ofWord (w : String) : Token :=
  if constant : w = "pi" then pi
  else match h : Operator.ofText? w with
    | some o => operator o
    | none => unknown w ⟨constant, h⟩

/-- The characters that a number can start with and, in an expression, consists of. -/
def isNumeric (c : Char) : Bool :=
  c.isDigit || c == '.'

/-- The token of an isolated piece of text. A piece is a number if it starts with a digit or a
point, or with a minus sign that does not stand alone; a tilde is the minus sign in front of an
operand. -/
def ofText (s : String) : Token :=
  match s.toList with
  | [] => ofWord s
  | [c] =>
    if isNumeric c then number s
    else if c = '~' then operator .negation
    else (ofSign? c).getD (ofWord s)
  | c :: _ :: _ => if isNumeric c || c == '-' then number s else ofWord s

/-- Whether a token stands in front of its operand. An unknown word would be a function. -/
def precedesOperand : Token → Bool
  | operator o => o.precedesOperand
  | unknown _ _ => true
  | number _ | pi | opening | closing | comma => false

/-- Whether an operand is complete behind a token, so that a minus sign there subtracts. -/
def completesOperand : Token → Bool
  | number _ | pi | closing => true
  | operator o => o == .factorial
  | unknown _ _ | opening | comma => false

/-- Whether a token is a literal. -/
def isNumber : Token → Bool
  | number _ => true
  | pi | operator _ | unknown _ _ | opening | closing | comma => false

/-- Whether a token stands for the minus sign in front of an operand. -/
def isNegation (t : Token) : Bool :=
  t == operator .negation

/-- Tokens in a row, divided by spaces. -/
def listText (ts : List Token) : String :=
  Text.unwords (ts.map text)

theorem ofWord_eq_unknown {w : String} (nameless : IsNameless w) :
    ofWord w = unknown w nameless := by
  unfold ofWord
  rw [dif_neg nameless.1]
  split
  · next o named => exact absurd (named.symm.trans nameless.2) (by simp)
  · rfl

theorem text_ofWord (w : String) : (ofWord w).text = w := by
  unfold ofWord
  split
  · simp_all [text]
  · split
    · next o h => exact Operator.text_of_ofText? h
    · rfl

end Token

end DeskCalculator
