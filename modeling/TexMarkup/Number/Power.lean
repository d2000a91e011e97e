import TexMarkup.Number.Elementary

/-!
# Powers of doubles

A power is the double nearest to its exact value. Rational powers are computed as
such, because only they can lie in the middle between two doubles; all others are
exponentials of multiples of a logarithm.

## Main definitions

* `Double.pow`.
-/

namespace TexMarkup

namespace Double

/-- Whether a finite number is an odd integer. -/
def isOddIntegral : Double → Bool
  | finite _ a => units a % unitsPerOne == 0 && units a / unitsPerOne % 2 == 1
  | _ => false

/-- A positive number as an odd natural number times a power of two, and how often
two was taken out. The number is given in units. -/
def oddPart (fuel n : Nat) (exponent : Int) : Nat × Int :=
  match fuel with
  | 0 => (n, exponent)
  | fuel + 1 => if n % 2 = 0 then oddPart fuel (n / 2) (exponent + 1) else (n, exponent)

/-- The root of a square number. -/
def exactRoot? (n : Nat) : Option Nat :=
  let root := sqrtFloor n
  if root * root = n then some root else none

/-- The number `odd * 2 ^ exponent` to the power `num / den` as a power of another
number with a smaller denominator: as long as the denominator is even and the
number is a square, its root is taken instead. -/
def takeRoots (fuel odd : Nat) (exponent : Int) (den : Nat) : Nat × Int × Nat :=
  match fuel with
  | 0 => (odd, exponent, den)
  | fuel + 1 =>
    if den % 2 = 0 ∧ exponent % 2 = 0 then
      match exactRoot? odd with
      | some root => takeRoots fuel root (exponent / 2) (den / 2)
      | none => (odd, exponent, den)
    else (odd, exponent, den)

/-- A number `m * 2 ^ exponent`, rounded. Exponents far outside the range of doubles
are brought nearer first. -/
def ofDyadic (negative : Bool) (m : Nat) (exponent : Int) : Double :=
  if 0 ≤ exponent then ofRatio negative (m * 2 ^ (min exponent 2200).toNat) 1
  else ofRatio negative m (2 ^ (min (-exponent) 10000).toNat)

/-- A power of a positive number that is rational and could be halfway between two
doubles: a power of a power of two, or a power with a small natural exponent. -/
def rationalPower? (negative : Bool) (base : Nat) (exponent : Int) : Option Double :=
  let (odd, two) := oddPart 2200 base (-1074)
  let (odd, two, den) := takeRoots 1074 odd two unitsPerOne
  let whole := exponent / den
  if odd = 1 then
    if (two * exponent) % den = 0 then some (ofDyadic negative 1 (two * exponent / den)) else none
  else if exponent % den = 0 ∧ 0 ≤ whole ∧ whole ≤ 64 then
    some (ofDyadic negative (odd ^ whole.toNat) (two * whole))
  else none

/-- The exponential of a number, or one past the range of doubles on the same side
when the exponential is past it. -/
def expClamped? {p : Nat} (x : Enclosure p) : Option (Enclosure p) :=
  if 800 * 2 ^ p < x.lo then some (Enclosure.ofInt (2 ^ 1030))
  else if x.hi < -(800 * 2 ^ p) then some (Enclosure.ofRatio 0 1)
  else if x.hi - x.lo < 2 ^ p then x.exp? else none

/-- A power of a positive number, with a sign put on the result. -/
def positivePower (negative : Bool) (base : Nat) (exponent : Int) : Double :=
  match rationalPower? negative base exponent with
  | some x => x
  | none =>
    let magnitude := nearestDouble fun p => do
      let ln : Enclosure p ← Enclosure.lnDyadic? base (-1074)
      expClamped? (ln.mulUnits exponent)
    if negative then magnitude.neg else magnitude

/-- The power. Whatever has the exponent zero is one, and so is every power of one.
Zero and the infinities keep their sign under odd exponents only. -/
def pow (base exponent : Double) : Double :=
  if exponent.isZero || base.equal one then one
  else
    match base, exponent with
    | nan, _ => nan
    | _, nan => nan
    | infinite s, y =>
      let negative := s && y.isOddIntegral
      if y.isNegative then zero negative else infinite negative
    | finite s a, infinite t =>
      if units a = unitsPerOne then one
      else if decide (unitsPerOne < units a) == t then zero false
      else if a.val = 0 ∧ s then infinite false
      else infinite false
    | finite s a, finite t b =>
      let negative := s && (finite t b).isOddIntegral
      if a.val = 0 then (if t then infinite negative else zero negative)
      else if s && !(finite t b).isIntegral then nan
      else positivePower negative (units a) (signedUnits t b)

end Double

end TexMarkup
