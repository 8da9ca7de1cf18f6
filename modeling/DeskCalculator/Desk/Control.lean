import DeskCalculator.Desk.Entry

/-!
# Controls

The desk is worked with labelled controls and two keys.

## Main definitions

* `PadKey`, `PadKey.piece`: the keys that add to the entry
* `Control`, `Control.label`: everything that can be clicked
* `Desk.activate`: what a control does to the desk
* `Input`: what the user does at one time
-/

namespace DeskCalculator

/-- The keys that add to the entry. -/
inductive PadKey where
  | digit (d : Fin 10)
  | point
  | opening
  | closing
  | comma
  | sign (s : BinarySign)
  | factorial
  | pi
  | function (f : NamedFunction)
  | space
  deriving DecidableEq, Repr

namespace PadKey

/-- All keys of the pad. -/
def all : List PadKey :=
  (List.finRange 10).map digit ++
    [point, opening, closing, comma, sign .plus, sign .minus, sign .times, sign .divide,
      sign .power, factorial, pi, space] ++
    NamedFunction.all.map function

/-- The label of a key. -/
def label : PadKey → String
  | digit d => d.val.repr
  | point => "."
  | opening => "("
  | closing => ")"
  | comma => ","
  | sign s => s.char.toString
  | factorial => "!"
  | pi => "pi"
  | function f => f.name
  | space => "esp"

/-- What a key adds to the entry. In an expression a function comes with its bracket. -/
def piece (mode : EntryMode) : PadKey → String
  | space => " "
  | function f =>
    match mode with
    | .expression => f.name ++ "("
    | .polish => f.name
  | k => k.label

end PadKey

/-- Everything that can be clicked. -/
inductive Control where
  /-- A key of the pad. -/
  | pad (k : PadKey)
  /-- Clears the entry. -/
  | clearEntry
  /-- Clears what is shown. -/
  | clearResults
  /-- Clears everything. -/
  | reset
  /-- Deletes the last symbol. -/
  | delete
  /-- Evaluates the entry. -/
  | equals
  /-- Sets the mode of the entry. -/
  | mode (m : EntryMode)
  /-- Opens or closes the settings. -/
  | settingsPanel
  /-- Opens or closes the working, which holds nothing to click. -/
  | workingPanel
  /-- Turns a rule of the settings on or off. -/
  | strictBrackets
  /-- Turns the other rule on or off. -/
  | strictStack
  deriving DecidableEq, Repr

namespace Control

/-- All controls. -/
def all : List Control :=
  PadKey.all.map pad ++
    [clearEntry, clearResults, reset, delete, equals, mode .expression, mode .polish,
      settingsPanel, workingPanel, strictBrackets, strictStack]

/-- The label of a control. -/
def label : Control → String
  | pad k => k.label
  | clearEntry => "C"
  | clearResults => "CLR"
  | reset => "AC"
  | delete => "DEL"
  | equals => "="
  | mode .expression => "infixe"
  | mode .polish => "RPN"
  | settingsPanel => "Réglages"
  | workingPanel => "Démarche"
  | strictBrackets => "Parenthèse ouvrante non fermée = erreur"
  | strictStack => "La pile doit finir avec une seule valeur"

/-- Whether a control lies in the panel with the settings. -/
def isSetting : Control → Bool
  | strictBrackets | strictStack => true
  | _ => false

end Control

/-- The label of the field for the precision, which lies in the panel with the settings. -/
def precisionLabel : String := "Précision"

/-- What a control does to the desk. Panels are no part of it. -/
def Desk.activate (d : Desk) : Control → Desk
  | .pad k => d.insert (k.piece d.mode)
  | .clearEntry => d.clearEntry
  | .clearResults => d.clearResults
  | .reset => d.reset
  | .delete => { d.deleteLast with focus := true }
  | .equals => d.evaluate.1
  | .mode m => { d with mode := m }
  | .settingsPanel | .workingPanel => d
  | .strictBrackets => { d with settings.strictBrackets := !d.settings.strictBrackets }
  | .strictStack => { d with settings.strictStack := !d.settings.strictStack }

/-- The keys of the keyboard that the window takes. -/
inductive Key where
  | enter | escape
  deriving DecidableEq, Repr

/-- What the user does at one time. -/
inductive Input where
  | nothing
  /-- Presses a key. -/
  | key (k : Key)
  /-- Clicks on a control. -/
  | click (c : Control)
  /-- Sets the field for the precision. -/
  | precision (n : Int)
  deriving DecidableEq, Repr

/-- The number that the user sets, if any. -/
def Input.number? : Input → Option Int
  | precision n => some n
  | nothing | key _ | click _ => none

end DeskCalculator
