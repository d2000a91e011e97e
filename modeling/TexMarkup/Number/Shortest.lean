import TexMarkup.Number.Decimal

/-!
# Shortest decimals

A double is written with the fewest digits that read back as the same double; of
several decimals with that many digits the one nearest to the double is taken,
and the greater one when two are equally near. Digits are written out in
positional notation, without a power of ten.

## Main definitions

* `Double.shortest`: the digits of a positive magnitude.
* `Decimal.layout`: a magnitude in positional notation.
* `Double.toText?`: the text of a finite double.
-/

namespace TexMarkup

namespace Double

/-- The power of ten just above a positive magnitude: the position in front of
its first digit. The magnitude is scaled up so that its whole part is positive. -/
def decimalPosition (rank : Nat) : Int :=
  (Decimal.digitCount (units rank * 10 ^ 400 / unitsPerOne) : Int) - 400

/-- The magnitude of a rank in units of a power of ten, as a quotient. -/
def inPowerOfTen (rank : Nat) (exponent : Int) : Nat × Nat :=
  if 0 ≤ exponent then (units rank, unitsPerOne * 10 ^ exponent.toNat)
  else (units rank * 10 ^ (-exponent).toNat, unitsPerOne)

/-- Of two decimals the one that reads back as this rank; if both do, the first one when it is
`nearer`. -/
def readingBack? (rank : Nat) (nearer : Bool) (below above : Decimal) : Option Decimal :=
  match decide (below.rank = rank), decide (above.rank = rank) with
  | true, true => some (if nearer then below else above)
  | true, false => some below
  | false, true => some above
  | false, false => none

/-- Of the two decimals with `count` digits next to the magnitude of a rank, the
nearest that reads back as this rank. -/
def withDigits? (rank count : Nat) : Option Decimal :=
  let exponent := decimalPosition rank - count
  let num := (inPowerOfTen rank exponent).1
  let den := (inPowerOfTen rank exponent).2
  -- No other decimal with this exponent is as near from its side.
  readingBack? rank (2 * (num % den) < den) ⟨false, num / den, exponent⟩
    ⟨false, num / den + 1, exponent⟩

/-- All digits of the magnitude of a rank. -/
def exactDecimal (rank : Nat) : Decimal :=
  ⟨false, units rank * 5 ^ 1074, -1074⟩

/-- The decimal with the fewest digits that reads back as this rank. -/
def shortest (rank : Nat) : Decimal :=
  (((List.range 17).map (· + 1)).findSome? (withDigits? rank)).getD (exactDecimal rank)

end Double

namespace Decimal

/-- The characters without the zeros they end with. -/
def dropZerosEnd (cs : List Char) : List Char :=
  (cs.reverse.dropWhile (· == '0')).reverse

/-- The magnitude of a decimal in positional notation; the point is left out when
nothing but zeros follows it. -/
def layout (d : Decimal) : List Char :=
  if 0 ≤ d.exponent then
    Nat.toDigits 10 d.digits ++ List.replicate d.exponent.toNat '0'
  else
    let places := (-d.exponent).toNat
    let digits := Nat.toDigits 10 d.digits
    let padded := List.replicate (places + 1 - digits.length) '0' ++ digits
    let whole := padded.take (padded.length - places)
    match dropZerosEnd (padded.drop (padded.length - places)) with
    | [] => whole
    | fraction => whole ++ '.' :: fraction

end Decimal

/-- The text of a finite double; zero has no sign. -/
def Double.toText? : Double → Option String
  | .finite negative rank =>
    if rank.val = 0 then some "0"
    else
      let digits := (Double.shortest rank.val).layout
      some (String.ofList (if negative then '-' :: digits else digits))
  | _ => none

end TexMarkup
