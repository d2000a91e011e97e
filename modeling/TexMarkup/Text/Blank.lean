/-!
# Blank characters

A character is *blank* when it has the Unicode property `White_Space`. The
property decides where words end, what is dropped at the edges of a text and
which paragraphs count as empty.

## Main definitions

* `isBlank`: the property as a test on characters.
* `trimEnd`, `trim`: a text without the blanks at its edges.
-/

namespace TexMarkup

/-- The characters with the property `White_Space`: the controls from tab to
carriage return, the space, next line, the no-break space, the typographic
spaces and the line and paragraph separators. -/
def isBlank (c : Char) : Bool :=
  let n := c.toNat
  (0x09 ≤ n && n ≤ 0x0D) || n == 0x20 || n == 0x85 || n == 0xA0 || n == 0x1680 ||
    (0x2000 ≤ n && n ≤ 0x200A) || n == 0x2028 || n == 0x2029 || n == 0x202F ||
    n == 0x205F || n == 0x3000

/-- The characters without the blanks they end with. -/
def dropBlankEnd (cs : List Char) : List Char :=
  (cs.reverse.dropWhile isBlank).reverse

/-- The text without the blanks it ends with. -/
def trimEnd (s : String) : String :=
  String.ofList (dropBlankEnd s.toList)

/-- The text without the blanks at either edge. -/
def trim (s : String) : String :=
  String.ofList (dropBlankEnd (s.toList.dropWhile isBlank))

/-- Whether nothing but blanks occurs in the text. -/
def isAllBlank (s : String) : Bool :=
  s.toList.all isBlank

end TexMarkup
