import DeskCalculator.Text.Unicode

/-!
# Quoted text

A text as the journal shows it: between double quotes, on one line, with every character that has
no printed form of its own written by its code point.

## Main definitions

* `escape`: how one character is written between the quotes
* `quoted`: a text between quotes
-/

namespace DeskCalculator.Text

/-- A character by its code point: `\u`, then the lowercase hexadecimal digits in braces. -/
def escapeCodePoint (c : Char) : List Char :=
  ['\\', 'u', '\x7b'] ++ Nat.toDigits 16 c.toNat ++ ['\x7d']

/-- How a character is written between quotes. The quote, the backslash and four controls have a
short form; marks that join the character before and what has no printed form, the invisible letters
among it, are written by code point; every other character stands for itself. -/
def escape (c : Char) : List Char :=
  if c = '\x00' then ['\\', '0']
  else if c = '\t' then ['\\', 't']
  else if c = '\n' then ['\\', 'n']
  else if c = '\r' then ['\\', 'r']
  else if c = '\\' then ['\\', '\\']
  else if c = '"' then ['\\', '"']
  else if isJoiningMark c || isUnprintable c then escapeCodePoint c
  else [c]

/-- A text between double quotes, each character written as `escape` says. -/
def quoted (s : String) : String :=
  String.ofList ('"' :: s.toList.flatMap escape ++ ['"'])

end DeskCalculator.Text
