import TexMarkup.Unicode.Excluded
import TexMarkup.Unicode.Mapping

/-!
# Characters in host names

A host name is folded before it is compared: characters that are only a form of
others become what they stand for, invisible characters are dropped, and some
characters are refused.

## Main definitions

* `foldChar?`: what a character becomes in a host.
* `isSettled`: whether folding leaves a character alone.
-/

namespace TexMarkup.Unicode

/-- What a character becomes when a host is folded, if a host may contain it. Of
ASCII, capital letters become small ones. -/
def foldChar? (c : Char) : Option (List Char) :=
  if c.toNat < 0x80 then some [c.toLower]
  else if isRefused c then none
  else if isDropped c then some []
  else some (image c)

/-- Whether folding leaves the character alone. -/
def isSettled (c : Char) : Bool :=
  foldChar? c == some [c]

end TexMarkup.Unicode
