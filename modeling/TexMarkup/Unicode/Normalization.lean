import TexMarkup.Unicode.Composition

/-!
# The composed form of a text

The same letter with the same marks can be written in several ways. The composed form
of a text is the same for all of them: every character is taken apart, the marks
between two letters are put in their canonical order, and then every character is
composed with those after it as far as possible.

## Main definitions

* `decompose`, `reorder`, `compose`: the three steps.
* `normalize`: the composed form.
-/

namespace TexMarkup.Unicode

/-- A character taken apart, and its first part after it, as often as `fuel` says. -/
def decomposeChar : Nat → Char → List Char
  | 0, c => [c]
  | fuel + 1, c =>
    match decompose? c with
    | some (a, b) => decomposeChar fuel a ++ [b]
    | none => [c]

/-- A text with every character taken apart. No character is composed in more than
three steps. -/
def decompose (cs : List Char) : List Char :=
  cs.flatMap (decomposeChar 3)

/-- Puts a character in front of an ordered text, behind the marks that go before
it. -/
def insertMark (c : Char) : List Char → List Char
  | [] => [c]
  | d :: ds =>
    if 0 < combiningClass d ∧ combiningClass d < combiningClass c then d :: insertMark c ds
    else c :: d :: ds

/-- A text with all marks between two letters in their canonical order; marks of one
class stay as they are. -/
def reorder (cs : List Char) : List Char :=
  cs.foldr insertMark []

/-- Composes a letter with what follows. `passed` holds the marks after the letter
that were not composed with it, the last one first. A mark or letter can only be
composed with the letter if it stands next to it or belongs behind the last of these
marks. -/
def composeAfter (letter : Char) (passed : List Char) : List Char → List Char
  | [] => letter :: passed.reverse
  | c :: cs =>
    let isFree := match passed with
      | [] => true
      | last :: _ => combiningClass last < combiningClass c
    match if isFree then compose? letter c else none with
    | some composed => composeAfter composed passed cs
    | none =>
      if combiningClass c = 0 then letter :: passed.reverse ++ composeAfter c [] cs
      else composeAfter letter (c :: passed) cs

/-- A text with every letter composed with what follows. Marks in front of the first
letter stay as they are. -/
def compose : List Char → List Char
  | [] => []
  | c :: cs => if combiningClass c = 0 then composeAfter c [] cs else c :: compose cs

/-- The composed form of a text. -/
def normalize (cs : List Char) : List Char :=
  compose (reorder (decompose cs))

end TexMarkup.Unicode
