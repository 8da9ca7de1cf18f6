import DeskCalculator.Number.Literal

/-!
# Why an evaluation fails

## Main definitions

* `Failure`: the causes
* `Failure.message`: the sentence that is shown for a cause
-/

namespace DeskCalculator

/-- The causes for which an expression has no value. -/
inductive Failure where
  /-- No token can be read where `rest` starts. -/
  | unreadable (rest : String)
  /-- A closing bracket has no opening one before it. -/
  | unopenedBracket
  /-- An opening bracket is never closed. -/
  | unclosedBracket
  /-- A symbol stands for no operation. -/
  | unknownSymbol (symbol : String)
  /-- A literal has no value. -/
  | badNumber (literal : String)
  /-- An operation found fewer operands than it takes. -/
  | missingOperands (operation : String) (size needed : Nat)
  /-- There was nothing to compute. -/
  | noExpression
  /-- More than one value remained where a single one is required. -/
  | leftoverValues (count : Nat)
  deriving DecidableEq, Repr

/-- The sentence that is shown for a cause. -/
def Failure.message : Failure → String
  | unreadable rest => "impossible d’analyser la chaîne « " ++ rest ++ " »"
  | unopenedBracket => "parenthèse fermante rencontrée avant la parenthèse ouvrante"
  | unclosedBracket => "parenthèse ouvrante non fermée"
  | unknownSymbol symbol =>
    "fonction non supportée « " ++ symbol ++ " ». N’oubliez pas les parenthèses."
  | badNumber literal =>
    "impossible de lire un nombre depuis « " ++ literal ++ " » : " ++
      (Number.literalFault literal).message
  | missingOperands operation size needed =>
    operation ++ " : la pile a une taille " ++ size.repr ++ " mais une taille " ++ needed.repr ++
      " est attendue"
  | noExpression => "l’entrée ne contient pas d’expression mathématique valide"
  | leftoverValues count =>
    "expression incomplète : " ++ count.repr ++ " valeurs restent sur la pile"

end DeskCalculator
