import DeskCalculator.Desk.Basic

/-!
# Editing the entry

## Main definitions

* `Desk.insert`: adds a piece at the end of the entry
* `Desk.deleteLast`: deletes the last symbol of the entry
-/

namespace DeskCalculator

namespace Desk

/-- The entry with a piece behind it. In postfix form a space divides the piece from what is there,
unless both are parts of one number. -/
def insertPiece (mode : EntryMode) (entry piece : String) : String :=
  let joins := piece.toList.all Token.isNumeric && entry.toList.getLast?.any Token.isNumeric
  if mode = .polish ∧ entry ≠ "" ∧ joins = false then entry ++ " " ++ piece
  else entry ++ piece

/-- Adds a piece at the end of the entry. -/
def insert (d : Desk) (piece : String) : Desk :=
  { d with entry := insertPiece d.mode d.entry piece, focus := true }

/-- The names that are deleted as one symbol: functions with their bracket, and the constant. A name
stands before every other one that it ends in. -/
def wholeSymbols : List String :=
  ["sqrt(", "asin(", "acos(", "atan(", "sinh(", "cosh(", "tanh(", "sin(", "cos(", "tan(", "exp(",
    "log(", "ln(", "lg(", "pi"]

/-- A text without the spaces at its end. -/
def dropEndSpaces (s : List Char) : List Char :=
  Text.dropEndWhile (· == ' ') s

/-- A text without the symbol at its end: one of the whole symbols, or a single character. -/
def dropLastSymbol (s : List Char) : List Char :=
  match wholeSymbols.find? fun w => w.toList.isSuffixOf s with
  | some w => s.take (s.length - w.toList.length)
  | none => s.dropLast

/-- A text without its last symbol and the spaces around it. -/
def deleteSymbol (s : String) : String :=
  String.ofList (dropEndSpaces (dropLastSymbol (dropEndSpaces s.toList)))

/-- Deletes the last symbol of the entry. -/
def deleteLast (d : Desk) : Desk :=
  { d with entry := deleteSymbol d.entry }

end Desk

end DeskCalculator
