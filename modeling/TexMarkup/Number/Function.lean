import TexMarkup.Number.Power
import TexMarkup.Number.Special

/-!
# Functions of doubles

Each function gives the double nearest to its exact value. Arguments at which the
value is zero or infinite are set apart, because no enclosure decides them; so are
arguments so great that the value is past the range of doubles or cannot be told
from a limit. Functions are asked about finite numbers only and give `nan` for all
others.

## Main definitions

* `Double.sin`, `cos`, `tan`, `asin`, `acos`, `atan`.
* `Double.sinh`, `cosh`, `tanh`, `asinh`, `acosh`, `atanh`.
* `Double.ln`, `log2`, `log10`.
* `Double.erf`, `erfc`, `gamma`, `logGamma`.
* `SpecialFunctions`: the functions that are a parameter of the evaluation.
-/

namespace TexMarkup

namespace Double

open Enclosure

/-- A function of the exact value of a finite number, in units. -/
def ofFinite (f : Int → Double) : Double → Double
  | finite s a => f (signedUnits s a)
  | _ => nan

/-- The exact value one, in units. -/
def oneUnits : Int := unitsPerOne

/-- A function that is odd and vanishes at zero. -/
def oddFunction (f : Int → Double) (x : Double) : Double :=
  if x.isZero then x else ofFinite f x

/-! ## Circular functions -/

/-- The sine. -/
def sin : Double → Double :=
  oddFunction fun u => nearestDouble fun p => do
    let (s, _) ← sinCos? (Enclosure.ofUnits (p := p) u)
    return s

/-- The cosine. -/
def cos : Double → Double :=
  ofFinite fun u => nearestDouble fun p => do
    let (_, c) ← sinCos? (Enclosure.ofUnits (p := p) u)
    return c

/-- The tangent. -/
def tan : Double → Double :=
  oddFunction fun u => nearestDouble fun p => do
    let (s, c) ← sinCos? (Enclosure.ofUnits (p := p) u)
    s.div? c

/-- The inverse tangent. -/
def atan : Double → Double :=
  oddFunction fun u => nearestDouble fun p => atan? (Enclosure.ofUnits (p := p) u)

/-- The inverse sine of an exact value between minus one and one: the inverse
tangent of the value by the root of `(1 - x) * (1 + x)`. -/
def asin? {p : Nat} (u : Int) : Option (Enclosure p) := do
  let rest : Enclosure p :=
    Enclosure.ofRatio ((oneUnits - u) * (oneUnits + u)) (unitsPerOne * unitsPerOne)
  if u = oneUnits then return (← pi?).divNat 2
  else if u = -oneUnits then return ((← pi?).divNat 2).neg
  else atan? (← (Enclosure.ofUnits u).div? rest.sqrt)

/-- The inverse sine. -/
def asin : Double → Double :=
  oddFunction fun u => nearestDouble fun _ => asin? u

/-- The inverse cosine. -/
def acos (x : Double) : Double :=
  if x.equal one then zero false
  else ofFinite (fun u => nearestDouble fun p => do
    let a : Enclosure p ← asin? u
    return ((← pi?).divNat 2).sub a) x

/-! ## Hyperbolic functions -/

/-- The exponentials of a number and of its negative. -/
def expPair? {p : Nat} (x : Enclosure p) : Option (Enclosure p × Enclosure p) := do
  return (← x.exp?, ← x.neg.exp?)

/-- The hyperbolic sine; past a thousand it is infinite. -/
def sinh : Double → Double :=
  oddFunction fun u =>
    if 1000 * oneUnits < u.natAbs then infinite (decide (u < 0))
    else nearestDouble fun p => do
      let (a, b) ← expPair? (Enclosure.ofUnits (p := p) u)
      return (a.sub b).divNat 2

/-- The hyperbolic cosine; past a thousand it is infinite. -/
def cosh : Double → Double :=
  ofFinite fun u =>
    if 1000 * oneUnits < u.natAbs then infinite false
    else nearestDouble fun p => do
      let (a, b) ← expPair? (Enclosure.ofUnits (p := p) u)
      return (a.add b).divNat 2

/-- The hyperbolic tangent; past forty it is nearest to one. -/
def tanh : Double → Double :=
  oddFunction fun u =>
    if 40 * oneUnits < u.natAbs then ofRatio (decide (u < 0)) 1 1
    else nearestDouble fun p => do
      let (a, b) ← expPair? (Enclosure.ofUnits (p := p) u)
      (a.sub b).div? (a.add b)

/-- The logarithm of a positive exact value plus the root of its square plus or
minus one. -/
def lnWithRoot? {p : Nat} (u shift : Int) : Option (Enclosure p) :=
  let square : Enclosure p :=
    Enclosure.ofRatio (u * u + shift * oneUnits * oneUnits) (unitsPerOne * unitsPerOne)
  ((Enclosure.ofUnits u).add square.sqrt).ln?

/-- The inverse hyperbolic sine. -/
def asinh : Double → Double :=
  oddFunction fun u => nearestDouble fun p => do
    let a : Enclosure p ← lnWithRoot? u.natAbs 1
    return if u < 0 then a.neg else a

/-- The inverse hyperbolic cosine of a number that is at least one. -/
def acosh (x : Double) : Double :=
  if x.equal one then zero false
  else ofFinite (fun u => nearestDouble fun _ => lnWithRoot? u (-1)) x

/-- The inverse hyperbolic tangent of a number between minus one and one. -/
def atanh : Double → Double :=
  oddFunction fun u =>
    if u.natAbs = unitsPerOne then infinite (decide (u < 0))
    else nearestDouble fun p => do
      let a ← (Enclosure.ofRatio (p := p) (oneUnits + u) (oneUnits - u).toNat).ln?
      return a.divNat 2

/-! ## Logarithms -/

/-- The logarithm of a number that is not negative to some base. -/
def logarithm (base? : (p : Nat) → Option (Enclosure p)) (x : Double) : Double :=
  if x.isZero then infinite true
  else if x.equal one then zero false
  else ofFinite (fun u => nearestDouble fun p => do
    let a ← lnDyadic? (p := p) u.toNat (-1074)
    a.div? (← base? p)) x

/-- The natural logarithm. -/
def ln : Double → Double := logarithm fun _ => some (ofInt 1)

/-- The logarithm to the base two. -/
def log2 : Double → Double := logarithm fun _ => ln2?

/-- The logarithm to the base ten. -/
def log10 : Double → Double := logarithm fun _ => lnDyadic? 10 0

/-! ## The error function and the gamma function -/

/-- The error function; past six it is nearest to one. -/
def erf : Double → Double :=
  oddFunction fun u =>
    if 6 * oneUnits < u.natAbs then ofRatio (decide (u < 0)) 1 1
    else nearestDouble fun p => erf? (Enclosure.ofUnits (p := p) u)

/-- One minus the error function; it is nearest to two below minus six and to zero
past 27.3. -/
def erfc : Double → Double :=
  ofFinite fun u =>
    if u < -6 * oneUnits then ofRatio false 2 1
    else if 273 * oneUnits < 10 * u then zero false
    else nearestDouble fun p => erfc? (Enclosure.ofUnits (p := p) u)

/-- Whether an exact value is a natural number or the negative of one. -/
def isWholeUnits (u : Int) : Bool := u % oneUnits == 0

/-- The gamma function. It is infinite at zero and past 172, has no value at other
integers below one, and is nearest to zero below minus two hundred. -/
def gamma (x : Double) : Double :=
  if x.isZero then infinite x.isNegative
  else ofFinite (fun u =>
    if u < 0 ∧ isWholeUnits u then nan
    else if 172 * oneUnits < u then infinite false
    else if u < -200 * oneUnits then zero false
    else nearestDouble fun _ => gamma? u) x

/-- The logarithm of the magnitude of the gamma function. It is zero at one and two
and infinite at the other integers below one. -/
def logGamma : Double → Double :=
  ofFinite fun u =>
    if u ≤ 0 ∧ isWholeUnits u then infinite false
    else if u = oneUnits ∨ u = 2 * oneUnits then zero false
    else nearestDouble fun _ => lnGamma? u

end Double

/-- How the functions are computed that come from outside: the error function and one
minus it, the gamma function, the logarithm of its magnitude, and the product with a
power of two. Nothing is asked of what they give. -/
class SpecialFunctions where
  /-- The error function. -/
  erf : Double → Double
  /-- One minus the error function. -/
  erfc : Double → Double
  /-- The gamma function. -/
  gamma : Double → Double
  /-- The logarithm of the magnitude of the gamma function. -/
  logGamma : Double → Double
  /-- The number times a power of two with an exponent of 32 bits. -/
  scale : Double → Int → Double

instance : SpecialFunctions :=
  ⟨Double.erf, Double.erfc, Double.gamma, Double.logGamma, Double.scale⟩

end TexMarkup
