import TexMarkup.Proofs.Evaluation.Written
import TexMarkup.Proofs.Html.Marker
import TexMarkup.Proofs.Html.Safety

/-!
# Visible errors are reported

A failure shows as a marker and is recorded as a warning. Markers are joined, trimmed and put
into elements, and some are passed over or quoted inside other messages, but none appears
that was not recorded, and those that appear do so in the order of their warnings.

## Main results

* `Written.shows`: what is written shows markers of the warnings that are recorded.
* `visibleErrors_reported`: the markers in a rendered document and its warnings.
-/

namespace TexMarkup

open Html

variable {options : Options}

/-! ## Links to the host -/

theorem shows_plainEntityLink (noTag : '<' ∉ options.baseUrl.toList) (kind : EntityKind)
    (id : Nat) :
    Shows (plainEntityLink options kind id) [] := by
  obtain ⟨plural, view, -⟩ := tagFree_entity kind
  have number := (tagFree_toString id).not_mem.1
  refine .anchor ?_ (.text (tagFree_entityLabel kind id).not_mem.1)
  simpa [noTag, plural.not_mem.1, view.not_mem.1] using number

theorem shows_plainUserLink (noTag : '<' ∉ options.baseUrl.toList) (name : String) :
    Shows (plainUserLink options name) [] := by
  have escaped := (tagFree_escape name).not_mem.1
  refine .anchor ?_ (.text escaped)
  simp [noTag, escaped]

/-- What is written shows markers of the warnings that are recorded, in their order. -/
theorem Written.shows [AddressReader] {named : String → Prop} {html : String}
    {recorded : List Warning} (noTag : '<' ∉ options.baseUrl.toList)
    (written : Written options named html recorded) :
    ∃ shown, Shows html shown ∧ shown.Sublist (recorded.map fun w => errorMarker w.message) := by
  -- On how the text is put together: what shows of the parts is joined as the parts are.
  induction written with
  | silent recorded => exact ⟨[], .text (by decide), List.nil_sublist _⟩
  | append _ _ ih ih' =>
    obtain ⟨shown, ofHtml, order⟩ := ih
    obtain ⟨shown', ofHtml', order'⟩ := ih'
    rw [List.map_append]
    exact ⟨shown ++ shown', ofHtml.append ofHtml', order.append order'⟩
  | trimEnd _ ih =>
    obtain ⟨shown, ofHtml, order⟩ := ih
    exact ⟨shown, ofHtml.trimEnd, order⟩
  | text content => exact ⟨[], .text (tagFree_escape content).not_mem.1, List.nil_sublist _⟩
  | literal table =>
    refine ⟨[], ?_, List.nil_sublist _⟩
    rcases literal_cases table with rfl | plain
    · have newline : Shows "\n" [] := .text (by decide)
      have tag : Shows ("<" ++ "br/" ++ ">") [] := .tag (by decide)
      exact (newline.append tag).append newline
    · exact .text (tagFree_of_plain plain).not_mem.1
  | nbsp => exact ⟨[], .text (by decide), List.nil_sublist _⟩
  | number digits =>
    have plain := tagFree_of_plain (Double.plain_of_toText? digits)
    exact ⟨[], .text plain.not_mem.1, List.nil_sublist _⟩
  | wrap table _ ih =>
    obtain ⟨shown, ofHtml, order⟩ := ih
    obtain ⟨opens, closes⟩ := noMarker_opening table rfl
    rw [String.append_empty] at opens
    exact ⟨shown, ofHtml.wrapTag opens closes, order⟩
  | wrapWith table _ ih =>
    obtain ⟨shown, ofHtml, order⟩ := ih
    obtain ⟨opens, closes⟩ := noMarker_opening table rfl
    exact ⟨shown, ofHtml.wrapTagWith opens closes, order⟩
  | link accepted _ ih =>
    obtain ⟨shown, ofHtml, order⟩ := ih
    refine ⟨shown, ofHtml.anchor ?_, order⟩
    rw [escape_of_checkedUri accepted]
    exact (tagFree_escape _).not_mem.1
  | image description accepted =>
    refine ⟨[], .image ?_ (tagFree_escape _).not_mem.1, List.nil_sublist _⟩
    rw [escape_of_checkedUri accepted]
    exact (tagFree_escape _).not_mem.1
  | @mailto address _ =>
    have escaped := (tagFree_escape address).not_mem.1
    exact ⟨[], .anchor (by simp [escaped]) (.text escaped), List.nil_sublist _⟩
  | entity kind _ => exact ⟨[], shows_plainEntityLink noTag kind _, List.nil_sublist _⟩
  | user _ => exact ⟨[], shows_plainUserLink noTag _, List.nil_sublist _⟩
  | marker command message => exact ⟨_, .marker message, List.Sublist.refl _⟩
  | paragraph _ ih =>
    obtain ⟨shown, ofHtml, order⟩ := ih
    exact ⟨shown, ofHtml.wrapParagraph, order⟩

/-- Every marker that shows in a rendered document is that of a warning, and they show in the
order of the warnings. A warning that does not show is one too many at most, so a document
without warnings shows no marker. -/
theorem visibleErrors_reported [AddressReader] [SpecialFunctions]
    (noTag : '<' ∉ options.baseUrl.toList) (document : Document) :
    let output := renderDocument ⟨.standard, options⟩ document
    (markers output.content.toList).Sublist
        (output.warnings.map fun w => errorMarker w.message) ∧
      (output.warnings = [] → markers output.content.toList = []) := by
  intro output
  have written : Written options (fun _ => True) output.content output.warnings :=
    renderDocument_written document fun _ _ _ _ => trivial
  obtain ⟨shown, ofContent, order⟩ := written.shows noTag
  rw [ofContent.markers_eq]
  refine ⟨order, fun none => ?_⟩
  rw [none] at order
  exact List.sublist_nil.mp order

/-- A marker in an operand is passed over, and one in a test is quoted by the marker of the
test, whatever the links begin with. -/
theorem visibleErrors_reported_quoted :
    let options : Options := { baseUrl := "\">]", wrapParagraphs := false }
    let document : Document := ⟨[⟨[.command "+" [.command "a" []], .command "user" [.text "u"],
      .command "not" [.command "d" []]]⟩]⟩
    let output := renderDocument ⟨.standard, options⟩ document
    let message := "not: <span style=\"color: red\">[unknown command d]</span> is not a boolean"
    '<' ∉ options.baseUrl.toList ∧
      output.content = "0<a href=\"\">]/users/u\">u</a>" ++ errorMarker message ∧
      output.warnings = [⟨some "a", "unknown command a"⟩, ⟨some "d", "unknown command d"⟩,
        ⟨some "not", message⟩] ∧
      (markers output.content.toList).Sublist
        (output.warnings.map fun w => errorMarker w.message) := by
  refine ⟨by decide, by decide +kernel, by decide +kernel, ?_⟩
  exact (visibleErrors_reported (by decide) _).1

end TexMarkup
