import TexMarkup.Evaluation

/-!
# Rendering texts

A text is read as a document, every paragraph is rendered, and those that show
anything are framed and joined. A text that cannot be read has no rendering; the
functions that always answer show the error in its place.

## Main definitions

* `Output`: the result of rendering.
* `renderNode`, `renderDocument`: trees.
* `tryRender`, `render`: texts with a commander and options.
* `tryToHtml`, `toHtml`: texts with the defaults.
-/

namespace TexMarkup

/-- Rendered text and what came up on the way. -/
structure Output where
  /-- The rendered text. -/
  content : String
  /-- The problems passed over, the oldest first. -/
  warnings : List Warning
  /-- The questions put to the host, the oldest first. -/
  lookups : List Reference
  deriving DecidableEq, Repr, Inhabited

/-- Whether there are any warnings. -/
def Output.hasWarnings (o : Output) : Bool :=
  !o.warnings.isEmpty

/-- What an evaluation from the initial state leaves. -/
def Output.ofEval (evaluation : Eval String) : Output :=
  match evaluation {} with
  | (html, s) => ⟨html, s.warnings, s.lookups⟩

variable [AddressReader] [SpecialFunctions]

/-- The rendering of a single tree. -/
def renderNode (setting : Setting) (node : Node) : Output :=
  Output.ofEval (node.render setting)

/-- The rendering of each paragraph, from the first to the last. -/
def renderParagraphs (setting : Setting) : List Paragraph → Eval (List String)
  | [] => pure []
  | paragraph :: paragraphs => do
    let html ← renderNodes setting paragraph.nodes
    let rest ← renderParagraphs setting paragraphs
    pure (html :: rest)

/-- The paragraphs that show anything, each in its frame, as one text. -/
def joinParagraphs (options : Options) (paragraphs : List String) : String :=
  let blocks := paragraphs.filter fun html => !isAllBlank html
  if options.wrapParagraphs then String.intercalate "\n" (blocks.map Html.wrapParagraph)
  else String.intercalate " " blocks

/-- The rendering of a document. -/
def renderDocument (setting : Setting) (document : Document) : Output :=
  Output.ofEval do
    let paragraphs ← renderParagraphs setting document.paragraphs
    pure (joinParagraphs setting.options paragraphs)

/-- The rendering of a text, or the reason why it cannot be read. -/
def tryRender (setting : Setting) (text : String) : Except ParseError Output :=
  (parseDocument text setting.options.maxDepth).map (renderDocument setting)

/-- The output that shows the reason why a text cannot be read. -/
def Output.ofParseError (options : Options) (e : ParseError) : Output :=
  let marker := Html.errorMarker e.message
  ⟨if options.wrapParagraphs then Html.wrapParagraph marker else marker, [⟨none, e.message⟩], []⟩

/-- The rendering of a text; one that cannot be read shows the reason. -/
def render (setting : Setting) (text : String) : Output :=
  match tryRender setting text with
  | .ok output => output
  | .error e => Output.ofParseError setting.options e

/-- The setting without a host and with the default options. -/
def Setting.default : Setting := ⟨.standard, {}⟩

/-- The rendering of a text with the defaults, or the reason why there is none. -/
def tryToHtml (text : String) : Except ParseError String :=
  (tryRender .default text).map Output.content

/-- The rendering of a text with the defaults; one that cannot be read shows the
reason. -/
def toHtml (text : String) : String :=
  match tryToHtml text with
  | .ok html => html
  | .error e => Html.wrapParagraph (Html.errorMarker e.message)

end TexMarkup
