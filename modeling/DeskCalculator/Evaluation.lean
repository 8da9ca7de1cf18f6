import DeskCalculator.Machine

/-!
# Evaluation

## Main definitions

* `Working`: the intermediate forms of an expression that has a value
* `Expression.toPostfix`: the postfix form of an expression, recorded
* `Expression.evaluate`: the value of an expression, with its working
* `Expression.value`: the value of an expression under the standard settings
* `Postfix.evaluateText`: the value of an expression that is written in postfix form
-/

namespace DeskCalculator

/-- The intermediate forms of an expression that has a value, as texts. -/
structure Working where
  /-- The tokens in reading order. -/
  tokens : String := ""
  /-- The postfix form. -/
  polish : String := ""
  /-- How the value was found. -/
  note : String := ""
  deriving DecidableEq, Repr

namespace Expression

/-- The postfix form of an expression, recorded. -/
def toPostfix (expression : String) (settings : Settings) : Logged Postfix := do
  let ts ← .ofExcept (Postfix.ofExpression expression settings)
  .record (.converted expression ts)
  pure ts

/-- The value of an expression, with its working. -/
def evaluate (expression : String) (settings : Settings) : Logged (Float × Working) := do
  let ts ← toPostfix expression settings
  if ts = [] then .fail .noExpression
  else
    let value ← Postfix.evaluate ts settings
    let read ← .ofExcept (tokens expression)
    .record (.tokenized expression read)
    pure (value,
      { tokens := Token.listText read
        polish := Token.listText ts
        note := "Pipeline: jetons → RPN (shunting-yard) → pile → résultat." })

/-- The value of an expression under the standard settings. -/
def value (expression : String) : Except Failure Float := do
  let ts ← Postfix.ofExpression expression .standard
  if ts = [] then .error .noExpression
  else (Postfix.evaluate ts .standard).outcome

end Expression

/-- The value of an expression that is written in postfix form. -/
def Postfix.evaluateText (text : String) (settings : Settings) : Logged Float :=
  let ts := Postfix.ofText text
  if ts = [] then .fail .noExpression
  else Postfix.evaluate ts settings

end DeskCalculator
