import TexMarkup.Number.Double

/-!
# Arithmetic of doubles

Sums, products, quotients, remainders and square roots, each the double nearest
to the exact result, and comparisons. Operations with infinite operands follow
the limits of the finite ones; where there is no limit the result is `nan`.

## Main definitions

* `Double.add`, `sub`, `mul`, `div`, `remainder`, `flooredMod`, `sqrt`, `scale`.
* `Double.truncate`, `Double.toInt32`, `Double.isIntegral`.
* `Double.equal`, `Double.less`, `Double.lessEqual`.
-/

namespace TexMarkup

namespace Double

/-- The number one. -/
def one : Double := ofRatio false 1 1

/-- Whether the sign is a minus; `nan` has none. -/
def isNegative : Double → Bool
  | finite negative _ => negative
  | infinite negative => negative
  | nan => false

/-- Whether the double is a zero of either sign. -/
def isZero : Double → Bool
  | finite _ rank => rank.val == 0
  | _ => false

/-- The double with the other sign. -/
def neg : Double → Double
  | finite negative rank => finite (!negative) rank
  | infinite negative => infinite (!negative)
  | nan => nan

/-- The double without its sign. -/
def abs : Double → Double
  | finite _ rank => finite false rank
  | infinite _ => infinite false
  | nan => nan

/-! ## Sums, products and quotients -/

/-- The sum. Opposite numbers add up to the positive zero. -/
def add : Double → Double → Double
  | nan, _ => nan
  | _, nan => nan
  | infinite s, infinite t => if s = t then infinite s else nan
  | infinite s, finite _ _ => infinite s
  | finite _ _, infinite t => infinite t
  | finite s a, finite t b =>
    let sum := signedUnits s a + signedUnits t b
    if sum = 0 then zero (s && t) else ofUnits (decide (sum < 0)) sum.natAbs 1

/-- The difference. -/
def sub (x y : Double) : Double :=
  add x (neg y)

/-- The product. -/
def mul : Double → Double → Double
  | nan, _ => nan
  | _, nan => nan
  | infinite s, infinite t => infinite (s != t)
  | infinite s, finite t b => if b.val = 0 then nan else infinite (s != t)
  | finite s a, infinite t => if a.val = 0 then nan else infinite (s != t)
  | finite s a, finite t b => ofUnits (s != t) (units a * units b) unitsPerOne

/-- The quotient. A nonzero number divided by zero is infinite. -/
def div : Double → Double → Double
  | nan, _ => nan
  | _, nan => nan
  | infinite _, infinite _ => nan
  | infinite s, finite t _ => infinite (s != t)
  | finite s _, infinite t => zero (s != t)
  | finite s a, finite t b =>
    if b.val = 0 then (if a.val = 0 then nan else infinite (s != t))
    else ofUnits (s != t) (units a * unitsPerOne) (units b)

/-- What is left of the first number after whole multiples of the second have
been taken away from it towards zero. It is exact and has the first number's
sign. -/
def remainder : Double → Double → Double
  | finite s a, finite _ b =>
    if b.val = 0 then nan else ofUnits s (units a % units b) 1
  | finite s a, infinite _ => finite s a
  | _, _ => nan

/-! ## Comparisons -/

/-- Whether the first number is less than the second. -/
def less : Double → Double → Bool
  | finite s a, finite t b => decide (signedUnits s a < signedUnits t b)
  | infinite s, infinite t => s && !t
  | infinite s, finite _ _ => s
  | finite _ _, infinite t => !t
  | _, _ => false

/-- Whether the numbers are equal; the two zeros are. -/
def equal : Double → Double → Bool
  | finite s a, finite t b => decide (signedUnits s a = signedUnits t b)
  | infinite s, infinite t => s == t
  | _, _ => false

/-- Whether the first number is at most the second. -/
def lessEqual (x y : Double) : Bool :=
  less x y || equal x y

/-- The remainder with the sign of the divisor. -/
def flooredMod (x y : Double) : Double :=
  let r := remainder x y
  if !equal r (zero false) && less r (zero false) != less y (zero false) then add r y else r

/-- The whole part of a finite number. -/
def truncate : Double → Int
  | finite s a => if s then -(units a / unitsPerOne : Nat) else (units a / unitsPerOne : Nat)
  | _ => 0

/-- The whole part of a finite number, brought into the range of 32 bits. -/
def toInt32 (x : Double) : Int :=
  max (-2 ^ 31) (min x.truncate (2 ^ 31 - 1))

/-- Whether a finite number has no fractional part. -/
def isIntegral : Double → Bool
  | finite _ a => units a % unitsPerOne == 0
  | _ => false

/-! ## Roots and powers of two -/

/-- Descends to the greatest natural number whose square is at most `n`, from
one that is no smaller: each step takes the mean of the guess and the quotient
that the guess leaves, and the last guess is the one that the mean does not
lower. -/
def sqrtDescend (n guess : Nat) : Nat :=
  let mean := (guess + n / guess) / 2
  if mean < guess then sqrtDescend n mean else guess
termination_by guess

/-- The greatest natural number whose square is at most `n`. -/
def sqrtFloor (n : Nat) : Nat :=
  if n = 0 then 0 else sqrtDescend n (2 ^ (Nat.log2 n / 2 + 1))

/-- The square root. Twice the root of the units is rounded down and made odd when
it is inexact, which keeps it on the right side of every tie. -/
def sqrt : Double → Double
  | nan => nan
  | infinite s => if s then nan else infinite false
  | finite s a =>
    if a.val = 0 then finite s a
    else if s then nan
    else
      let square := units a * unitsPerOne
      let root := sqrtFloor square
      ofUnits false (2 * root + if root * root = square then 0 else 1) 2

/-- The number times a power of two. -/
def scale (x : Double) (exponent : Int) : Double :=
  match x with
  | finite s a =>
    if 0 ≤ exponent then ofUnits s (units a * 2 ^ (min exponent 2200).toNat) 1
    else ofUnits s (units a) (2 ^ (min (-exponent) 2200).toNat)
  | x => x

end Double

end TexMarkup
