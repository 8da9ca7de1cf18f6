import DeskCalculator.Number.Decimal

/-!
# The shortest decimal that reads back

A float is shown by the fewest significant digits that identify it: some decimal number of that
length lies so near that reading it gives the float again, and of these the nearest is taken.

## Main definitions

* `readsBack`: whether a decimal number lies in the interval that rounds to a float
* `shortest`: the shortest and nearest decimal of a finite float
* `plainText`: the text of any float in this form
-/

namespace DeskCalculator.Number

/-- The width of the interval that rounds to a float of `steps` steps, on the side of zero, in
quarters of a step. Below a power of two the floats lie twice as close. -/
def lowerReach (steps : Nat) : Nat :=
  let gap := spacing steps
  if steps = twoTo 52 * gap ∧ 1 < gap then gap else 2 * gap

/-- The width of that interval on the other side, in quarters of a step. -/
def upperReach (steps : Nat) : Nat :=
  2 * spacing steps

/-- Whether the decimal number rounds to the float of `steps` steps. The ends of the interval are
halfway to the neighbours, and they round to the float exactly if its last bit is zero. -/
def readsBack (steps : Nat) (d : Decimal) : Bool :=
  let below := tenTo (-d.exponent).toNat
  let quarters := 4 * d.coefficient * stepsPerUnit * tenTo d.exponent.toNat
  let low := (4 * steps - lowerReach steps) * below
  let high := (4 * steps + upperReach steps) * below
  if steps / spacing steps % 2 = 0 then low ≤ quarters && quarters ≤ high
  else low < quarters && quarters < high

/-- The decimal numbers next to a float among those whose last digit stands at `exponent`, the
nearer one first; of two equally near ones the greater. -/
def neighbours (steps : Nat) (exponent : Int) : List Decimal :=
  let (num, den) := inUnits steps stepsPerUnit exponent
  let below := num / den
  if 2 * (num % den) < den then [⟨below, exponent⟩, ⟨below + 1, exponent⟩]
  else [⟨below + 1, exponent⟩, ⟨below, exponent⟩]

/-- The shortest decimal number that rounds to a float of `steps` steps, and of these the nearest.
Seventeen digits are always enough. -/
def shortest (steps : Nat) : Decimal :=
  let first := decimalExponent steps stepsPerUnit
  let found := (List.range 17).findSome? fun (more : Nat) =>
    (neighbours steps (first - more)).find? (readsBack steps)
  found.getD (roundToLength steps 17)

/-- A float by its shortest digits, without an exponent; zero keeps its sign. -/
def plainText (v : Float) : String :=
  match Binary64.ofFloat v with
  | .nan => "NaN"
  | .infinite negative => if negative then "-inf" else "inf"
  | .finite negative steps =>
    let size := if steps = 0 then ['0'] else (shortest steps).text
    String.ofList (if negative then '-' :: size else size)

end DeskCalculator.Number
