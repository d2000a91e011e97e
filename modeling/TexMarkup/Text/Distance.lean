/-!
# Edit distance

The least number of characters to insert, delete or replace that turns one text
into another, computed row by row: a row holds the distances of all prefixes of
the second text from one prefix of the first.

## Main definitions

* `distanceRow`: the row after one more character.
* `editDistance`: the distance of two texts.
-/

namespace TexMarkup

/-- The cells of the next row. `diagonal` is the cell above and to the left,
`left` the cell just written, and `above` the rest of the row above. -/
def distanceCells (a : Char) (diagonal left : Nat) : List Char → List Nat → List Nat
  | b :: bs, up :: above =>
    let replaced := if a = b then diagonal else diagonal + 1
    let cell := min (min replaced (up + 1)) (left + 1)
    cell :: distanceCells a up cell bs above
  | _, _ => []

/-- The row of distances after one more character of the first text. -/
def distanceRow (bs : List Char) (row : List Nat) (a : Char) : List Nat :=
  match row with
  | [] => []
  | first :: above => (first + 1) :: distanceCells a first (first + 1) bs above

/-- The edit distance of two lists of characters. -/
def charDistance (as bs : List Char) : Nat :=
  ((as.foldl (distanceRow bs) (List.range (bs.length + 1))).getLast?).getD 0

/-- The edit distance of two texts. -/
def editDistance (a b : String) : Nat :=
  charDistance a.toList b.toList

end TexMarkup
