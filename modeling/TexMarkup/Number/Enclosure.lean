import TexMarkup.Number.Arithmetic

/-!
# Enclosures of real numbers

A real number is held between two multiples of `2 ^ (-p)`. Every operation rounds
the lower end down and the upper end up, so that the result holds whatever the
operation gives on the numbers that the operands hold. An enclosure decides a
double when both its ends are nearest to the same one; otherwise the calculation
is done again with more places.

## Main definitions

* `Enclosure` and its arithmetic.
* `Enclosure.sumSeries`: the sum of a series.
* `Enclosure.toDouble?`, `nearestDouble`: the double that is decided.
-/

namespace TexMarkup

/-- The real numbers from `lo / 2 ^ p` to `hi / 2 ^ p`. -/
structure Enclosure (p : Nat) where
  /-- The lower end. -/
  lo : Int
  /-- The upper end. -/
  hi : Int
  deriving DecidableEq, Repr

namespace Enclosure

variable {p : Nat}

/-- A quotient rounded down; the divisor is positive. -/
def floorDiv (a : Int) (b : Nat) : Int := a / b

/-- A quotient rounded up; the divisor is positive. -/
def ceilDiv (a : Int) (b : Nat) : Int := -(-a / b)

/-- The quotient of an integer and a positive natural number. -/
def ofRatio (num : Int) (den : Nat) : Enclosure p :=
  ⟨floorDiv (num * 2 ^ p) den, ceilDiv (num * 2 ^ p) den⟩

/-- An integer. -/
def ofInt (n : Int) : Enclosure p := ⟨n * 2 ^ p, n * 2 ^ p⟩

/-- A number of units of the least double. -/
def ofUnits (n : Int) : Enclosure p := ofRatio n Double.unitsPerOne

/-- The sum. -/
def add (x y : Enclosure p) : Enclosure p := ⟨x.lo + y.lo, x.hi + y.hi⟩

/-- The negative. -/
def neg (x : Enclosure p) : Enclosure p := ⟨-x.hi, -x.lo⟩

/-- The difference. -/
def sub (x y : Enclosure p) : Enclosure p := x.add y.neg

/-- The least enclosure that holds four quotients, rounded outwards. -/
def ofCorners (den : Nat) (a b c d : Int) : Enclosure p :=
  ⟨floorDiv (min (min a b) (min c d)) den, ceilDiv (max (max a b) (max c d)) den⟩

/-- The product. -/
def mul (x y : Enclosure p) : Enclosure p :=
  ofCorners (2 ^ p) (x.lo * y.lo) (x.lo * y.hi) (x.hi * y.lo) (x.hi * y.hi)

/-- The square of a number that is not negative. -/
def square (x : Enclosure p) : Enclosure p := x.mul x

/-- An integer multiple. -/
def mulInt (x : Enclosure p) (n : Int) : Enclosure p :=
  ⟨min (x.lo * n) (x.hi * n), max (x.lo * n) (x.hi * n)⟩

/-- The quotient by a positive natural number. -/
def divNat (x : Enclosure p) (n : Nat) : Enclosure p :=
  ⟨floorDiv x.lo n, ceilDiv x.hi n⟩

/-- The number times a quotient of units of the least double. -/
def mulUnits (x : Enclosure p) (n : Int) : Enclosure p :=
  (x.mulInt n).divNat Double.unitsPerOne

/-- The inverse of a number that is certainly positive. -/
def inverse? (x : Enclosure p) : Option (Enclosure p) :=
  if 0 < x.lo then
    some ⟨floorDiv (2 ^ (2 * p)) x.hi.toNat, ceilDiv (2 ^ (2 * p)) x.lo.toNat⟩
  else none

/-- The quotient by a number that is certainly positive. -/
def divPositive? (x y : Enclosure p) : Option (Enclosure p) :=
  if 0 < y.lo then
    let low := min (floorDiv (x.lo * 2 ^ p) y.lo.toNat) (floorDiv (x.lo * 2 ^ p) y.hi.toNat)
    let high := max (ceilDiv (x.hi * 2 ^ p) y.lo.toNat) (ceilDiv (x.hi * 2 ^ p) y.hi.toNat)
    some ⟨low, high⟩
  else none

/-- The quotient by a number whose sign is certain. -/
def div? (x y : Enclosure p) : Option (Enclosure p) :=
  if y.hi < 0 then x.neg.divPositive? y.neg else x.divPositive? y

/-- The number times a power of two. -/
def scale (x : Enclosure p) (exponent : Int) : Enclosure p :=
  if 0 ≤ exponent then x.mulInt (2 ^ exponent.toNat) else x.divNat (2 ^ (-exponent).toNat)

/-- The square root of a number that is not negative. -/
def sqrt (x : Enclosure p) : Enclosure p :=
  ⟨Double.sqrtFloor (x.lo * 2 ^ p).toNat, Double.sqrtFloor (x.hi * 2 ^ p).toNat + 1⟩

/-- The magnitude of a number whose sign is certain, and otherwise the magnitudes
up to the greater end. -/
def abs (x : Enclosure p) : Enclosure p :=
  if 0 ≤ x.lo then x else if x.hi ≤ 0 then x.neg else ⟨0, max (-x.lo) x.hi⟩

/-- The enclosure with both ends moved outwards. -/
def widen (x : Enclosure p) (margin : Int) : Enclosure p :=
  ⟨x.lo - margin, x.hi + margin⟩

/-- Whether the number is certainly less than a few of the smallest steps. -/
def isNegligible (x : Enclosure p) : Bool :=
  -4 ≤ x.lo && x.hi ≤ 4

/-- The sum of a series of which every part is computed from the one before. A
part counts with a coefficient that is at most one. Once a part is negligible the
parts that follow are at most half the part before them, and the ends are moved to
make room for them all. -/
def sumSeries (coefficient next : Nat → Enclosure p → Enclosure p) :
    Nat → Nat → Enclosure p → Enclosure p → Option (Enclosure p)
  | 0, _, _, _ => none
  | fuel + 1, k, part, sum =>
    let sum := sum.add (coefficient k part)
    if part.isNegligible then some (sum.widen 4)
    else sumSeries coefficient next fuel (k + 1) (next k part) sum

/-- The sum of a series from its first part on. -/
def series (coefficient next : Nat → Enclosure p → Enclosure p) (first : Enclosure p) :
    Option (Enclosure p) :=
  sumSeries coefficient next (16 * p + 4096) 0 first (ofInt 0)

/-- The double nearest to a rational number with the denominator `2 ^ p`. -/
def roundEnd (p : Nat) (n : Int) : Double :=
  Double.ofRatio (decide (n < 0)) n.natAbs (2 ^ p)

/-- The double nearest to every number that is held, if there is only one. The two
zeros count as one. -/
def toDouble? (x : Enclosure p) : Option Double :=
  let low := roundEnd p x.lo
  let high := roundEnd p x.hi
  if low = high then some high
  else if low.isZero && high.isZero then some (.zero false) else none

end Enclosure

/-- The numbers of places that are tried one after the other. -/
def precisions : List Nat := [128, 256, 512, 1024, 2048, 4096]

/-- The double nearest to a real number that can be enclosed with any number of
places. -/
def nearestDouble (enclose : (p : Nat) → Option (Enclosure p)) : Double :=
  (precisions.findSome? fun p => (enclose p).bind Enclosure.toDouble?).getD .nan

end TexMarkup
