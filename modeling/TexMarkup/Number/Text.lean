import TexMarkup.Number.Shortest
import TexMarkup.Text.Blank

/-!
# Numbers as texts

Commands pass numbers to one another as text. Blanks around a number do not
matter. The words for infinite values and for values that are no numbers are
understood but denote no operand, and a number too great for a double is none.

## Main definitions

* `Double.parse?`: the double that a text denotes.
* `coerceNumber`: the finite number that a text with blanks around it denotes.
-/

namespace TexMarkup

/-- The double that a text denotes: a decimal, or a word for a value that is not
finite, which may have a sign and be written with capitals. -/
def Double.parse? (cs : List Char) : Option Double :=
  match Decimal.parse? cs with
  | some d => some d.toDouble
  | none =>
    let (negative, word) := Decimal.takeSign cs
    match String.ofList (word.map Char.toLower) with
    | "inf" | "infinity" => some (.infinite negative)
    | "nan" => some .nan
    | _ => none

/-- The finite double that a text denotes. -/
def coerceNumber (text : String) : Option Double :=
  (Double.parse? (trim text).toList).filter Double.isFinite

end TexMarkup
