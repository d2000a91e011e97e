import TexMarkup.Proofs.Evaluation.Written

/-!
# Properties of everything that is rendered

A property that the pieces of rendered text have, and that joining and trimming keep, is a
property of all that is rendered.

## Main definitions

* `OutputInvariant`: a property of the pieces that joining and trimming keep.

## Main results

* `OutputInvariant.of_written`: the property of text that is put together from pieces.
* `OutputInvariant.renderDocument`, `OutputInvariant.render`,
  `OutputInvariant.toHtml`: the property of whole documents and texts.
-/

namespace TexMarkup

/-- A property of the pieces of rendered text, without a host, that joining and
trimming keep. References to users only have to have it for the users that are named. -/
structure OutputInvariant [AddressReader] (options : Options) (P : String → Prop)
    (named : String → Prop := fun _ => True) : Prop where
  append : ∀ html html', P html → P html' → P (html ++ html')
  trimEnd : ∀ html, P html → P (trimEnd html)
  /-- Escaped text. -/
  text : ∀ content, P (Html.escape content)
  /-- The output of a literal command. -/
  literal : ∀ name output, (name, Handler.literal output) ∈ commandTable → P output
  nbsp : P nbspText
  /-- The text of a number. -/
  number : ∀ (x : Double) digits, x.toText? = some digits → P digits
  /-- An element of the table around rendered content. -/
  wrap : ∀ name tag html, (name, Handler.wrap tag) ∈ commandTable → P html →
    P (Html.wrapTag tag html)
  /-- An element of the table with attributes. -/
  wrapWith : ∀ name tag attributes html, (name, Handler.wrapWith tag attributes) ∈ commandTable →
    P html → P (Html.wrapTagWith tag attributes html)
  /-- A link with an accepted target. -/
  link : ∀ name uri target html, checkedUri name (trim uri) = .ok target → P html →
    P (Html.anchor target html)
  /-- An image with an accepted source. -/
  image : ∀ name uri source description, checkedUri name (trim uri) = .ok source →
    P (Html.image source (Html.escape description))
  mailto : ∀ address, isEmail address = true →
    P (Html.anchor ("mailto:" ++ Html.escape address) (Html.escape address))
  /-- A link to an entity of the host. -/
  entity : ∀ kind id, id < 2 ^ 64 → P (plainEntityLink options kind id)
  user : ∀ name, named name → P (plainUserLink options name)
  /-- The marker of a failure. -/
  marker : ∀ message, P (Html.errorMarker message)
  /-- A paragraph of a document. -/
  paragraph : ∀ html, P html → P (Html.wrapParagraph html)

variable [AddressReader] {options : Options} {P named : String → Prop}

namespace OutputInvariant

/-- Text that is put together from pieces has the property. -/
theorem of_written (h : OutputInvariant options P named) {html : String} {recorded : List Warning}
    (written : Written options named html recorded) : P html := by
  induction written with
  | silent => exact h.text ""
  | append _ _ ih ih' => exact h.append _ _ ih ih'
  | trimEnd _ ih => exact h.trimEnd _ ih
  | text content => exact h.text content
  | literal table => exact h.literal _ _ table
  | nbsp => exact h.nbsp
  | number digits => exact h.number _ _ digits
  | wrap table _ ih => exact h.wrap _ _ _ table ih
  | wrapWith table _ ih => exact h.wrapWith _ _ _ _ table ih
  | link accepted _ ih => exact h.link _ _ _ _ accepted ih
  | image description accepted => exact h.image _ _ _ description accepted
  | mailto isAddress => exact h.mailto _ isAddress
  | entity kind small => exact h.entity kind _ small
  | user isNamed => exact h.user _ isNamed
  | marker command message => exact h.marker message
  | paragraph _ ih => exact h.paragraph _ ih

theorem parseError (h : OutputInvariant options P named) (options' : Options) (e : ParseError) :
    P (Output.ofParseError options' e).content := by
  rw [Output.ofParseError]
  dsimp only
  split
  · exact h.paragraph _ (h.marker _)
  · exact h.marker _

variable [SpecialFunctions]

/-- A rendered document has the property, if the users that it names may be named. -/
theorem renderDocument_of_named (h : OutputInvariant options P named) (document : Document)
    (known : ∀ inner ∈ document.walk, ∀ user, inner.NamesUser user → named user) :
    P (renderDocument ⟨.standard, options⟩ document).content :=
  h.of_written (renderDocument_written document known)

/-- A rendered document has the property. -/
theorem renderDocument (h : OutputInvariant options P) (document : Document) :
    P (TexMarkup.renderDocument ⟨.standard, options⟩ document).content :=
  h.renderDocument_of_named document fun _ _ _ _ => trivial

/-- A rendered text has the property, whether or not it can be read. -/
theorem render (h : OutputInvariant options P) (text : String) :
    P (render ⟨.standard, options⟩ text).content := by
  rw [TexMarkup.render, tryRender]
  cases parseDocument text options.maxDepth with
  | ok document => exact h.renderDocument document
  | error e => exact h.parseError options e

/-- A text rendered with the defaults has the property. -/
theorem toHtml (h : OutputInvariant {} P) (text : String) : P (TexMarkup.toHtml text) := by
  rw [TexMarkup.toHtml, tryToHtml, tryRender]
  cases parseDocument text Setting.default.options.maxDepth with
  | ok document => exact h.renderDocument document
  | error e => exact h.paragraph _ (h.marker _)

end OutputInvariant

end TexMarkup
