import TexMarkup.Number.Double

/-!
# Decimal numbers

A decimal is a natural number of some power of ten, with a sign. Texts are read
as decimals exactly, and a decimal is rounded to a double once.

## Main definitions

* `Decimal`, `Decimal.parse?`.
* `Decimal.toDouble`: the nearest double, infinite past the finite range.
-/

namespace TexMarkup

/-- The number `digits * 10 ^ exponent`, negated when `negative` holds. -/
structure Decimal where
  /-- Whether a minus sign was written. -/
  negative : Bool
  /-- All digits as one natural number. -/
  digits : Nat
  /-- The power of ten that they count. -/
  exponent : Int
  deriving DecidableEq, Repr, Inhabited

namespace Decimal

/-- The natural number that a list of digits denotes. -/
def naturalOf (cs : List Char) : Nat :=
  cs.foldl (fun n c => 10 * n + (c.toNat - '0'.toNat)) 0

/-- The natural number of a text of one or more digits. -/
def natural? (cs : List Char) : Option Nat :=
  if cs ≠ [] ∧ cs.all Char.isDigit then some (naturalOf cs) else none

/-- A leading sign, and the characters after it. -/
def takeSign : List Char → Bool × List Char
  | '-' :: cs => (true, cs)
  | '+' :: cs => (false, cs)
  | cs => (false, cs)

/-- The power of ten written after the digits, zero when there is none. -/
def exponent? : List Char → Option Int
  | [] => some 0
  | c :: cs =>
    if c = 'e' ∨ c = 'E' then
      match takeSign cs with
      | (negative, digits) =>
        (natural? digits).map fun (n : Nat) => if negative then -(n : Int) else n
    else none

/-- The digits after a leading point, and the characters after them. -/
def takeFraction : List Char → List Char × List Char
  | '.' :: cs => (cs.takeWhile Char.isDigit, cs.dropWhile Char.isDigit)
  | cs => ([], cs)

/-- A decimal written with an optional sign, digits, at most one point before,
among or after them, and an optional power of ten. -/
def parse? (cs : List Char) : Option Decimal :=
  let (negative, unsigned) := takeSign cs
  let whole := unsigned.takeWhile Char.isDigit
  let (fraction, rest) := takeFraction (unsigned.dropWhile Char.isDigit)
  match natural? (whole ++ fraction), exponent? rest with
  | some digits, some exponent => some ⟨negative, digits, exponent - fraction.length⟩
  | _, _ => none

/-- How many digits a natural number has; zero has none. -/
def digitCount (n : Nat) : Nat :=
  if n = 0 then 0 else (Nat.toDigits 10 n).length

/-- The double nearest to the magnitude of a decimal, by its rank. A magnitude
from `10 ^ 310` on is past every finite double and one below `10 ^ (-330)` is
nearest to zero, so neither is worth computing. -/
def rank (d : Decimal) : Nat :=
  let top := digitCount d.digits + d.exponent
  if d.digits = 0 ∨ top < -330 then 0
  -- A huge power of ten is never computed: the position of the first digit decides.
  else if 310 < top then Double.rankCount
  else if 0 ≤ d.exponent then
    Double.nearestRank (d.digits * 10 ^ d.exponent.toNat * Double.unitsPerOne) 1
  else Double.nearestRank (d.digits * Double.unitsPerOne) (10 ^ (-d.exponent).toNat)

/-- The double nearest to a decimal. -/
def toDouble (d : Decimal) : Double :=
  Double.ofRank d.negative d.rank

end Decimal

end TexMarkup
