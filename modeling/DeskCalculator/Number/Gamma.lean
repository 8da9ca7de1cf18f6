/-!
# The gamma function

The factorial of every real number, `x! = Γ (x + 1)`, by Lanczos' approximation: for positive `x`

  `Γ x = S x * (x + g - 1/2) ^ (x - 1/2) * exp (-(x + g - 1/2))`

with a quotient `S` of two polynomials. Negative arguments use the reflection
`Γ (-x) = -π / (x * sin (π x) * Γ x)`.

The calculator takes this function from a mathematical library. The definitions here stand in for
that one: they follow the same approximation, with the same poles, signs and limits, but the last
bits of a value may differ. No result about the calculator rests on its values.

## Main definitions

* `gamma`: the gamma function
* `factorial`: the factorial of any number
-/

namespace DeskCalculator.Number

/-- The ratio of the circle to its diameter. -/
def circleRatio : Float := 3.14159265358979323846

/-- The shift `g - 1/2` of Lanczos' approximation. -/
def lanczosShift : Float := 5.524680040776729583740234375

/-- The coefficients of the numerator and of the denominator, from the constant terms up. -/
def lanczosCoefficients : List (Float × Float) :=
  [(23531376880.410759688572007674451636754734846804940, 0),
   (42919803642.649098768957899047001988850926355848959, 39916800),
   (35711959237.355668049440185451547166705960488635843, 120543840),
   (17921034426.037209699919755754458931112671403265390, 150917976),
   (6039542586.3520280050642916443072979210699388420708, 105258076),
   (1439720407.3117216736632230727949123939715485786372, 45995730),
   (248874557.86205415651146038641322942321632125127801, 13339535),
   (31426415.585400194380614231628318205362874684987640, 2637558),
   (2876370.6289353724412254090516208496135991145378768, 357423),
   (186056.26539522349504029498971604569928220784236328, 32670),
   (8071.6720023658162106380029022722506138218516325024, 1925),
   (210.82427775157934587250973392071336271166969580291, 66),
   (2.5066282746310002701649081771338373386264310793408, 1)]

/-- The quotient of the two polynomials at a positive number. For great arguments both are divided
by the highest power, which cannot overflow. -/
def lanczosQuotient (x : Float) : Float :=
  let (num, den) :=
    if x < 8 then
      lanczosCoefficients.foldr (fun (a, b) (num, den) => (num * x + a, den * x + b)) (0, 0)
    else
      lanczosCoefficients.foldl (fun (num, den) (a, b) => (num / x + a, den / x + b)) (0, 0)
  num / den

/-- The sine of `π x` for a positive number. The argument is brought into a quarter turn on either
side of the axis that is nearest. -/
def sinPi (x : Float) : Float :=
  let half := x * 0.5
  let turn := 2 * (half - half.floor)
  let quarter := ((4 * turn).floor.toUInt64 + 1) / 2
  let angle := (turn - quarter.toFloat * 0.5) * circleRatio
  match quarter with
  | 1 => angle.cos
  | 2 => (-angle).sin
  | 3 => -angle.cos
  | _ => angle.sin

/-- The product of the whole numbers up to `n`. -/
def wholeFactorial : Nat → Nat
  | 0 => 1
  | n + 1 => (n + 1) * wholeFactorial n

/-- The gamma function where Lanczos' approximation is used, `|x| < 184` and not a pole. The sum
`|x| + (g - 1/2)` is rounded; its error enters the result to first order. The library
rounds in other places, so the last bits of its values may be other ones. -/
def lanczosGamma (x : Float) : Float :=
  let size := x.abs
  let base := size + lanczosShift
  let error :=
    if size > lanczosShift then base - size - lanczosShift else base - lanczosShift - size
  let scaled := lanczosQuotient size * (-base).exp
  let negative := x < 0
  let factor := if negative then -circleRatio / (sinPi size * size * scaled) else scaled
  let error := if negative then -error else error
  let exponent := if negative then -(size - 0.5) else size - 0.5
  let corrected := factor + error * (lanczosShift + 0.5) * factor / base
  let root := base.pow (0.5 * exponent)
  corrected * root * root

/-- The gamma function. At zero it is an infinity of the sign of that zero, at the negative whole
numbers and at negative infinity it is not a number. Up to 23 whole numbers give exact factorials;
from 184 on the result is infinite, and below -184 it is a zero whose sign alternates. It stands in
for the function of the library, whose last bits may be other ones. -/
def gamma (x : Float) : Float :=
  if x.isNaN || x.isInf then x + 1.0 / 0.0
  else if x.abs < Float.scaleB 1 (-54) then 1.0 / x
  else if x == x.floor && x < 0 then 0.0 / 0.0
  else if x == x.floor && x ≤ 23 then
    Float.ofNat (wholeFactorial (x.toUInt64.toNat - 1))
  else if x.abs ≥ 184 then
    if x > 0 then 1.0 / 0.0
    else if x.floor * 0.5 == (x * 0.5).floor then 0.0
    else -0.0
  else lanczosGamma x

/-- The factorial of any number. -/
def factorial (x : Float) : Float :=
  gamma (x + 1.0)

end DeskCalculator.Number
