/-!
# Sets of characters

Properties of characters are given by the runs of code points that have them.

## Main definitions

* `inRanges`: whether a character is in one of the runs.
* `words`: the words of a text between single spaces.
-/

namespace TexMarkup.Unicode

/-- Whether the code point of a character is in one of the runs. -/
def inRanges (ranges : List (Nat × Nat)) (c : Char) : Bool :=
  ranges.any fun (first, last) => first ≤ c.toNat && c.toNat ≤ last

/-- The words of a text between single spaces. -/
def words : List Char → List (List Char)
  | [] => [[]]
  | c :: cs =>
    match words cs with
    | [] => [[c]]
    | word :: rest => if c = ' ' then [] :: word :: rest else (c :: word) :: rest

end TexMarkup.Unicode
