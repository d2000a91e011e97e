import TexMarkup.Parser

/-!
# Options

What a caller can choose about the reading and rendering of a text.

## Main definitions

* `Options` and its presets `Options.inline` and `Options.strict`.
* `Options.withBaseUrl`, `Options.withMaxDepth`.
-/

namespace TexMarkup

/-- How a text is read and rendered. -/
structure Options where
  /-- How many commands may lie inside one another. -/
  maxDepth : Nat := defaultMaxDepth
  /-- The start of every link to an entity or a user, without a slash at its end. -/
  baseUrl : String := ""
  /-- Whether each paragraph becomes an element of its own. -/
  wrapParagraphs : Bool := true
  deriving DecidableEq, Repr, Inhabited

namespace Options

/-- Options for a snippet inside other text. -/
def inline : Options := { wrapParagraphs := false }

/-- Options for a text that is not trusted. -/
def strict : Options := { maxDepth := 32 }

/-- The options with another start of links; slashes at its end are dropped. -/
def withBaseUrl (o : Options) (url : String) : Options :=
  { o with baseUrl := String.ofList (url.toList.reverse.dropWhile (· == '/')).reverse }

/-- The options with another nesting limit. -/
def withMaxDepth (o : Options) (limit : Nat) : Options :=
  { o with maxDepth := limit }

end Options

end TexMarkup
