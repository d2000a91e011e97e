import TexMarkup.Number.Elementary

/-!
# The error function and the gamma function

The error function comes from its series with positive parts. The logarithm of
the gamma function comes from a sum of simple fractions whose relative error is
below a power of a half that grows with the number of fractions; arguments below
one are reflected or moved up first.

## Main definitions

* `Enclosure.erf?`, `Enclosure.erfc?`.
* `Enclosure.lnGammaFromOne?`, `Enclosure.gamma?`, `Enclosure.lnGamma?`: arguments
  are integers, in units of the least double.
-/

namespace TexMarkup

namespace Enclosure

variable {p : Nat}

/-- The error function. -/
def erf? (x : Enclosure p) : Option (Enclosure p) := do
  let square := x.mul x
  let sum ← series (fun _ part => part)
    (fun k part => ((part.mul square).mulInt 2).divNat (2 * k + 3)) x
  let decay ← exp? square.neg
  let pi ← pi?
  ((sum.mul decay).mulInt 2).div? pi.sqrt

/-- One minus the error function. -/
def erfc? (x : Enclosure p) : Option (Enclosure p) := do
  let e ← erf? x
  return (ofInt 1).sub e

/-- The product of the natural numbers up to `n`. -/
def factorial : Nat → Nat
  | 0 => 1
  | n + 1 => (n + 1) * factorial n

/-- The fractions of the gamma function from the last one, of number `a - 1`, to
the first. The fraction of number `a - j` has the numerator
`exp j * sqrt j * j ^ m / m!` for `m = a - j - 1`, negative for odd `m`, and the
denominator `z + (a - j)`. -/
def gammaFractions (e : Enclosure p) (z a : Nat) : Nat → Nat → Enclosure p → Enclosure p
  | 0, _, _ => ofInt 0
  | fuel + 1, j, power =>
    let m := a - j - 1
    let numerator := ((power.mul (ofInt j).sqrt).mulInt (j ^ m)).divNat (factorial m)
    let fraction := (numerator.mulInt Double.unitsPerOne).divNat
      (z + (a - j) * Double.unitsPerOne)
    (gammaFractions e z a fuel (j + 1) (power.mul e)).add
      (if m % 2 = 0 then fraction else fraction.neg)

/-- The logarithm of the gamma function of an argument that is at least one. With
`z` one less than the argument it is
`(z + 1/2) * ln (z + a) - (z + a) + ln (sqrt (2 * π) + fractions)`, and leaving out
all but `a - 1` fractions changes the last logarithm by less than `2 ^ (-5 * a / 2)`. -/
def lnGammaFromOne? (units : Nat) : Option (Enclosure p) := do
  let a := p / 4
  let z := units - Double.unitsPerOne
  let pi : Enclosure p ← pi?
  let e ← exp? (ofInt 1)
  let sum := (pi.mulInt 2).sqrt.add (gammaFractions e z a (a - 1) 1 e)
  let sum := sum.widen (ceilDiv sum.hi (2 ^ (5 * a / 2)))
  let base := z + a * Double.unitsPerOne
  let lnBase ← lnDyadic? base (-1074)
  let lnSum ← ln? sum
  let exponent : Int := 2 * z + Double.unitsPerOne
  return (((lnBase.mulInt exponent).divNat (2 * Double.unitsPerOne)).sub (ofUnits base)).add lnSum

/-- The sine of π times a number, without its sign. The whole part of the number
does not matter. -/
def sinPi? (units : Nat) : Option (Enclosure p) := do
  let pi ← pi?
  let (sin, _) ← sinCos? (pi.mulUnits (units % Double.unitsPerOne))
  return sin.abs

/-- The gamma function of a number that is no integer below one. -/
def gamma? (units : Int) : Option (Enclosure p) := do
  let one : Int := Double.unitsPerOne
  if one ≤ units then
    exp? (← lnGammaFromOne? units.toNat)
  else if 0 < units then
    let next ← exp? (← lnGammaFromOne? (units + one).toNat)
    return (next.mulInt one).divNat units.toNat
  else
    let pi ← pi?
    let reflected ← exp? (← lnGammaFromOne? (one - units).toNat)
    let sin ← sinPi? units.natAbs
    let magnitude ← pi.div? (sin.mul reflected)
    return if units.natAbs / Double.unitsPerOne % 2 = 0 then magnitude.neg else magnitude

/-- The logarithm of the magnitude of the gamma function of a number that is no
integer below one. -/
def lnGamma? (units : Int) : Option (Enclosure p) := do
  let one : Int := Double.unitsPerOne
  if one ≤ units then lnGammaFromOne? units.toNat
  else if 0 < units then
    let next ← lnGammaFromOne? (units + one).toNat
    return next.sub (← lnDyadic? units.toNat (-1074))
  else
    let pi ← pi?
    let reflected ← lnGammaFromOne? (one - units).toNat
    let sin ← sinPi? units.natAbs
    return ((← ln? pi).sub (← ln? sin)).sub reflected

end Enclosure

end TexMarkup
