import TexMarkup.Text.Blank

/-!
# Deciding properties of texts

What all characters of a text have in common is decided by going through the text,
and never by going through all characters that there are.

## Main results

* `decidableAllOfList`, `decidableSomeOfList`: the characters of a list.
* `decidableAllOfOption`: the character that may be there.
-/

namespace TexMarkup

variable {p : Char → Prop} [DecidablePred p]

/-- Whether all characters of a list have a property. -/
instance decidableAllOfList (cs : List Char) : Decidable (∀ c ∈ cs, p c) :=
  decidable_of_iff (cs.all (p ·) = true) (by simp)

/-- Whether some character of a list has a property. -/
instance decidableSomeOfList (cs : List Char) : Decidable (∃ c ∈ cs, p c) :=
  decidable_of_iff (cs.any (p ·) = true) (by simp)

/-- Whether the character that may be there has a property. -/
instance decidableAllOfOption (o : Option Char) : Decidable (∀ c ∈ o, p c) :=
  decidable_of_iff (o.all (p ·) = true) (by cases o <;> simp)

end TexMarkup
