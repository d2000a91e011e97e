/-!
# HTML fragments

The pieces of HTML that every renderer needs: escaped text, tags around content
that is rendered already, the paragraph frame and the marker of a failure.

## Main definitions

* `escape`: text with its five special characters written as references.
* `wrapTag`, `wrapTagWith`, `wrapParagraph`: an element around given content.
* `errorMarker`: the red bracketed note that stands for a failed command.
-/

namespace TexMarkup.Html

/-- The characters with every occurrence of `c` written as `reference`. -/
def replaceChar (c : Char) (reference : List Char) (cs : List Char) : List Char :=
  cs.flatMap fun d => if d = c then reference else [d]

/-- Characters in a form that is safe as text and inside a quoted attribute.
The ampersand comes first, so that the references written by the later passes
are left alone. -/
def escapeChars (cs : List Char) : List Char :=
  replaceChar '\'' "&#39;".toList <|
  replaceChar '"' "&quot;".toList <|
  replaceChar '>' "&gt;".toList <|
  replaceChar '<' "&lt;".toList <|
  replaceChar '&' "&amp;".toList cs

/-- Text in a form that is safe as text and inside a quoted attribute. -/
def escape (text : String) : String :=
  String.ofList (escapeChars text.toList)

/-- An element without attributes around rendered content. -/
def wrapTag (tag content : String) : String :=
  "<" ++ tag ++ ">" ++ content ++ "</" ++ tag ++ ">"

/-- An element with the given attribute text around rendered content. -/
def wrapTagWith (tag attributes content : String) : String :=
  "<" ++ tag ++ " " ++ attributes ++ ">" ++ content ++ "</" ++ tag ++ ">"

/-- A paragraph of a document: the content stands on lines of its own. -/
def wrapParagraph (content : String) : String :=
  "<p>\n" ++ content ++ "\n</p>\n"

/-- The note shown in place of something that could not be rendered. -/
def errorMarker (message : String) : String :=
  "<span style=\"color: red\">[" ++ escape message ++ "]</span>"

/-- A link around rendered content; the target is escaped already. -/
def anchor (target content : String) : String :=
  "<a href=\"" ++ target ++ "\">" ++ content ++ "</a>"

/-- An image; source and alternative text are escaped already. -/
def image (source alternative : String) : String :=
  "<img src=\"" ++ source ++ "\" alt=\"" ++ alternative ++ "\"/>"

end TexMarkup.Html
