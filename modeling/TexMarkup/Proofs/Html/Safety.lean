import TexMarkup.Proofs.Evaluation.Output
import TexMarkup.Proofs.Html.Tags

/-!
# Rendered text is balanced HTML

Every piece of rendered text is balanced: what a user wrote is escaped wherever it
goes, and numbers, names of commands and addresses of entities hold none of the
characters that matter. So whole documents are balanced, whatever was written in
them, and so are the messages about texts that cannot be read.

## Main results

* `Double.plain_of_toText?`: the texts of numbers are plain.
* `outputInvariant_balanced`: the pieces of rendered text are balanced.
* `rendered_balanced`: so are documents and texts.
-/

namespace TexMarkup

open Html

/-! ## Numbers -/

private theorem plain_of_isDigit {c : Char} (digit : c.isDigit = true) : c ∉ markupChars := by
  intro mem
  have noDigit : ∀ c ∈ markupChars, c.isDigit = false := by decide
  exact absurd digit (by rw [noDigit c mem]; decide)

private theorem plain_of_mem_toDigits {c : Char} {n : Nat} (mem : c ∈ Nat.toDigits 10 n) :
    c ∉ markupChars :=
  plain_of_isDigit (Nat.isDigit_of_mem_toDigits (by decide) (by decide) mem)

theorem tagFree_toString (n : Nat) : TagFree (toString n) := by
  refine tagFree_of_plain fun c mem => plain_of_mem_toDigits (n := n) ?_
  have digits : c ∈ (String.ofList (Nat.toDigits 10 n)).toList := mem
  rwa [String.toList_ofList] at digits

private theorem Decimal.dropZerosEnd_subset (cs : List Char) :
    Decimal.dropZerosEnd cs ⊆ cs := by
  intro c mem
  have kept := (List.dropWhile_sublist _).subset (List.mem_reverse.mp mem)
  exact List.mem_reverse.mp kept

private theorem Decimal.plain_of_mem_layout {c : Char} {d : Decimal} (mem : c ∈ d.layout) :
    c ∉ markupChars := by
  have ofZeros {n : Nat} (mem : c ∈ List.replicate n '0') : c ∉ markupChars := by
    rw [List.eq_of_mem_replicate mem]
    decide
  have ofPadded {n : Nat} (mem : c ∈ List.replicate n '0' ++ Nat.toDigits 10 d.digits) :
      c ∉ markupChars :=
    (List.mem_append.mp mem).elim ofZeros plain_of_mem_toDigits
  -- Digits are padded with zeros and cut at the point; no other characters come in.
  rw [Decimal.layout] at mem
  split at mem
  · exact (List.mem_append.mp mem).elim plain_of_mem_toDigits ofZeros
  · dsimp only at mem
    split at mem
    · exact ofPadded (List.mem_of_mem_take mem)
    · rcases List.mem_append.mp mem with mem | mem
      · exact ofPadded (List.mem_of_mem_take mem)
      · rcases List.mem_cons.mp mem with rfl | mem
        · decide
        · exact ofPadded (List.mem_of_mem_drop (Decimal.dropZerosEnd_subset _ mem))

/-- The texts of numbers are plain. -/
theorem Double.plain_of_toText? {x : Double} {digits : String} (written : x.toText? = some digits) :
    ∀ c ∈ digits.toList, c ∉ markupChars := by
  cases x with
  | finite negative rank =>
    rw [Double.toText?] at written
    split at written
    · cases written
      decide
    · cases written
      intro c mem
      rw [String.toList_ofList] at mem
      split at mem
      · rcases List.mem_cons.mp mem with rfl | mem
        · decide
        · exact Decimal.plain_of_mem_layout mem
      · exact Decimal.plain_of_mem_layout mem
  | infinite negative => cases written
  | nan => cases written

/-! ## Pieces and documents -/

theorem tagFree_entity (kind : EntityKind) :
    TagFree kind.plural ∧ TagFree kind.view ∧ TagFree kind.label := by
  cases kind <;> exact ⟨tagFree_of_plain (by decide), tagFree_of_plain (by decide),
    tagFree_of_plain (by decide)⟩

/-- What text, elements and joining keep is a property of everything that is rendered,
as soon as trimming keeps it and links and images have it. -/
theorem Html.ElementClosed.outputInvariant [AddressReader] {options : Options}
    {P named : String → Prop} (pieces : ElementClosed P)
    (trimEnd : ∀ html, P html → P (trimEnd html))
    (link : ∀ name uri target html, checkedUri name (trim uri) = .ok target → P html →
      P (Html.anchor target html))
    (image : ∀ name uri source description, checkedUri name (trim uri) = .ok source →
      P (Html.image source (Html.escape description)))
    (mailto : ∀ address, isEmail address = true →
      P (Html.anchor ("mailto:" ++ Html.escape address) (Html.escape address)))
    (entity : ∀ kind id, id < 2 ^ 64 → P (plainEntityLink options kind id))
    (user : ∀ name, named name → P (plainUserLink options name)) :
    OutputInvariant options P named where
  append _ _ h h' := pieces.append h h'
  trimEnd := trimEnd
  text := pieces.escape
  literal _ _ table := pieces.literal table
  nbsp := pieces.text (.reference _ (by decide))
  number _ _ written := pieces.text (tagFree_of_plain (Double.plain_of_toText? written))
  wrap _ _ _ table h := pieces.wrapTag (Opening.wrap table) h
  wrapWith _ _ _ _ table h := pieces.wrapTagWith (Opening.wrapWith table) h
  link := link
  image := image
  mailto := mailto
  entity := entity
  user := user
  marker := pieces.errorMarker
  paragraph _ h := pieces.wrapParagraph h

theorem tagFree_entityLabel (kind : EntityKind) (id : Nat) :
    TagFree (kind.label ++ " #" ++ toString id) := by
  have mark : TagFree " #" := tagFree_of_plain (by decide)
  exact ((tagFree_entity kind).2.2.append mark).append (tagFree_toString id)

/-- The pieces of rendered text are balanced, if links to the host start with plain
characters. -/
theorem outputInvariant_balanced [AddressReader] {options : Options}
    (plain : ∀ c ∈ options.baseUrl.toList, c ∉ markupChars) : OutputInvariant options Balanced := by
  refine elementClosed_balanced.outputInvariant ?trimEnd ?link ?image ?mailto ?entity ?user
  case trimEnd => exact fun _ h => h.trimEnd
  case link =>
    intro _ uri target html accepted h
    rw [escape_of_checkedUri accepted]
    exact .anchor (tagFree_escape _) h
  case image =>
    intro _ uri source description accepted
    rw [escape_of_checkedUri accepted]
    exact .image (tagFree_escape _) (tagFree_escape description)
  case mailto =>
    intro address _
    have scheme : TagFree "mailto:" := tagFree_of_plain (by decide)
    exact .anchor (scheme.append (tagFree_escape address)) (.text (tagFree_escape address))
  case entity =>
    intro kind id _
    have slash : TagFree "/" := tagFree_of_plain (by decide)
    obtain ⟨plural, view, -⟩ := tagFree_entity kind
    have target := (((((tagFree_of_plain plain).append slash).append plural).append slash).append
      (tagFree_toString id)).append view
    exact .anchor target (.text (tagFree_entityLabel kind id))
  case user =>
    intro name _
    have users : TagFree "/users/" := tagFree_of_plain (by decide)
    have target := ((tagFree_of_plain plain).append users).append (tagFree_escape name)
    exact .anchor target (.text (tagFree_escape name))

/-- Everything that is rendered without a host is balanced HTML, whatever the
document or the text: nothing that was written in it can open or close a tag, or
leave the value of an attribute. So the tags that a reader finds match. -/
theorem rendered_balanced [AddressReader] [SpecialFunctions] {options : Options}
    (plain : ∀ c ∈ options.baseUrl.toList, c ∉ markupChars) :
    (∀ document, Balanced (renderDocument ⟨.standard, options⟩ document).content ∧
        tagsMatch (renderDocument ⟨.standard, options⟩ document).content = true) ∧
      (∀ text, Balanced (render ⟨.standard, options⟩ text).content ∧
        tagsMatch (render ⟨.standard, options⟩ text).content = true) ∧
      ∀ text, Balanced (toHtml text) ∧ tagsMatch (toHtml text) = true := by
  have pieces := outputInvariant_balanced plain
  have defaults : OutputInvariant {} Balanced := outputInvariant_balanced (by decide)
  have safe {html : String} (h : Balanced html) : Balanced html ∧ tagsMatch html = true :=
    ⟨h, h.tagsMatch_eq_true⟩
  refine ⟨fun document => ?_, fun text => ?_, fun text => ?_⟩
  · exact safe (pieces.renderDocument document)
  · exact safe (pieces.render text)
  · exact safe (defaults.toHtml text)

/-- A tag in a text, a quotation mark in a target and a reference in a name. -/
theorem rendered_balanced_injection :
    let options : Options := { baseUrl := "https://host.example" }
    let document := Document.mk [⟨[.text "</b>", .command "b" [.text "<script>"],
      .command "user" [.text "\"&amp;"], .command "<i>" []]⟩]
    (∀ c ∈ options.baseUrl.toList, c ∉ markupChars) ∧
      (renderDocument ⟨.standard, options⟩ document).content =
        "<p>\n&lt;/b&gt;<b>&lt;script&gt;</b>" ++
          "<a href=\"https://host.example/users/&quot;&amp;amp;\">&quot;&amp;amp;</a>" ++
          "<span style=\"color: red\">[unknown command &lt;i&gt;]</span>\n</p>\n" ∧
      Balanced (renderDocument ⟨.standard, options⟩ document).content := by
  refine ⟨by decide, by decide +kernel, ?_⟩
  exact ((rendered_balanced (by decide)).1 _).1

end TexMarkup
