/-!
# Numerals

The words that read as decimal numbers: an optional sign, digits with at most
one point among or beside them, and an optional power of ten.

## Main definitions

* `isNumeral`: whether the characters form a numeral.
-/

namespace TexMarkup

/-- The characters after an optional leading sign. -/
def dropSign : List Char → List Char
  | '+' :: cs => cs
  | '-' :: cs => cs
  | cs => cs

/-- At least one digit and nothing else. -/
def isDigits (cs : List Char) : Bool :=
  !cs.isEmpty && cs.all Char.isDigit

/-- What may follow the digits of a numeral: nothing, or a power of ten. -/
def isExponentPart : List Char → Bool
  | [] => true
  | c :: cs => (c == 'e' || c == 'E') && isDigits (dropSign cs)

/-- A numeral without its sign: digits before the point, after it or on both
sides, and then an optional power of ten. -/
def isUnsignedNumeral (cs : List Char) : Bool :=
  let whole := cs.takeWhile Char.isDigit
  match cs.dropWhile Char.isDigit with
  | '.' :: rest =>
    let fraction := rest.takeWhile Char.isDigit
    (!whole.isEmpty || !fraction.isEmpty) && isExponentPart (rest.dropWhile Char.isDigit)
  | rest => !whole.isEmpty && isExponentPart rest

/-- Whether the characters form a numeral. -/
def isNumeral (cs : List Char) : Bool :=
  isUnsignedNumeral (dropSign cs)

end TexMarkup
