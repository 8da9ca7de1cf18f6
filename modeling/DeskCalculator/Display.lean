import DeskCalculator.Number.Decimal

/-!
# The display of a value

## Main definitions

* `Display.trimFraction`: a decimal without the end of its fraction that does not count
* `Display.text`: a value as the desk shows it
-/

namespace DeskCalculator

/-- A decimal without the zeros at the end of its fraction, and without the point if no digit is left
behind it. -/
def Display.trimFraction (s : List Char) : List Char :=
  if '.' ∈ s then Text.dropEndWhile (· == '.') (Text.dropEndWhile (· == '0') s) else s

/-- A value rounded to at most `digits` decimal places, ties to even, without zeros at the end of
the fraction and without an exponent. A value that rounds to zero has no sign. -/
def Display.text (v : Float) (digits : Nat) : String :=
  match Number.Binary64.ofFloat v with
  | .nan => "indéfini"
  | .infinite negative => if negative then "-∞" else "∞"
  | .finite negative steps =>
    let size := Number.fixed (Number.roundToPlaces steps digits) digits
    let trimmed := trimFraction (if negative then '-' :: size else size)
    String.ofList (if trimmed = ['-', '0'] then trimmed.tail else trimmed)

end DeskCalculator
