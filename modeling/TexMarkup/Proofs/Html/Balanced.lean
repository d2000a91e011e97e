import TexMarkup.Command.Table
import TexMarkup.Html
import TexMarkup.Proofs.Text.Decide

/-!
# Balanced HTML

Balanced HTML is a sequence of plain characters, references and elements, whose
content is balanced again. The elements are those of the table of commands, links,
images, line breaks, paragraphs and the marker of a failure; the values of their
attributes hold no tags and no quotation marks.

## Main definitions

* `TagFree`: text without tags, as it can stand in the value of an attribute.
* `Opening`: the names and attributes of elements that hold content.
* `Balanced`: balanced HTML.
* `ElementClosed`: a property of text, line breaks and elements that joining keeps.

## Main results

* `escapeChars_eq_flatMap`: every character is escaped by itself.
* `tagFree_escape`: escaped text has no tags.
* `Balanced.trimEnd`: dropping the blanks at the end keeps HTML balanced.
* `ElementClosed.wrapTag`, `ElementClosed.wrapParagraph`, `ElementClosed.errorMarker`,
  `ElementClosed.literal`: the pieces of rendered text have such a property.
-/

namespace TexMarkup.Html

/-- The characters with a meaning of their own in HTML. -/
def markupChars : List Char := ['<', '>', '&', '"', '\'']

/-- The references that may be written. -/
def references : List String := ["&amp;", "&lt;", "&gt;", "&quot;", "&#39;", "&nbsp;"]

/-- Text without tags: references, and characters without a meaning of their own. -/
inductive TagFree : String → Prop
  | empty : TagFree ""
  | char (c : Char) (plain : c ∉ markupChars) : TagFree (String.singleton c)
  | reference (r : String) (known : r ∈ references) : TagFree r
  | append {s s' : String} : TagFree s → TagFree s' → TagFree (s ++ s')

/-- The elements that hold content, by their name and what follows it in the opening
tag. -/
inductive Opening : String → String → Prop
  /-- An element of the table of commands. -/
  | wrap {name tag : String} : (name, Handler.wrap tag) ∈ commandTable → Opening tag ""
  /-- An element of the table of commands with attributes. -/
  | wrapWith {name tag attributes : String} :
    (name, Handler.wrapWith tag attributes) ∈ commandTable → Opening tag (" " ++ attributes)
  /-- The marker of a failure. -/
  | marker : Opening "span" " style=\"color: red\""
  | paragraph : Opening "p" ""

/-- Balanced HTML. -/
inductive Balanced : String → Prop
  | text {s : String} : TagFree s → Balanced s
  | lineBreak : Balanced "<br/>"
  | image {source alternative : String} : TagFree source → TagFree alternative →
    Balanced ("<img src=\"" ++ source ++ "\" alt=\"" ++ alternative ++ "\"/>")
  | anchor {target content : String} : TagFree target → Balanced content →
    Balanced ("<a href=\"" ++ target ++ "\">" ++ content ++ "</a>")
  | element {tag attributes content : String} : Opening tag attributes → Balanced content →
    Balanced ("<" ++ tag ++ attributes ++ ">" ++ content ++ "</" ++ tag ++ ">")
  | append {s s' : String} : Balanced s → Balanced s' → Balanced (s ++ s')

variable {s s' : String} {c : Char} {cs : List Char}

/-! ## Text without tags -/

private theorem tagFree_ofList (plain : ∀ c ∈ cs, c ∉ markupChars) :
    TagFree (String.ofList cs) := by
  induction cs with
  | nil => exact .empty
  | cons c cs ih =>
    rw [String.ofList_cons]
    exact (TagFree.char c (plain c List.mem_cons_self)).append
      (ih fun c' mem => plain c' (List.mem_cons_of_mem _ mem))

/-- Text without the characters of markup has no tag and no quotation mark. -/
theorem tagFree_of_plain (plain : ∀ c ∈ s.toList, c ∉ markupChars) : TagFree s := by
  rw [← String.ofList_toList (s := s)]
  exact tagFree_ofList plain

/-- A character in a form that is safe everywhere. -/
def escapeChar : Char → List Char
  | '&' => "&amp;".toList
  | '<' => "&lt;".toList
  | '>' => "&gt;".toList
  | '"' => "&quot;".toList
  | '\'' => "&#39;".toList
  | c => [c]

private theorem replaceChar_singleton {d : Char} (other : d ≠ c) (reference : List Char) :
    replaceChar c reference [d] = [d] := by
  rw [replaceChar, List.flatMap_singleton, if_neg other]

theorem escapeChars_singleton (c : Char) : escapeChars [c] = escapeChar c := by
  unfold escapeChar
  split
  case h_6 noAmp noLt noGt noQuot noApos =>
    rw [escapeChars, replaceChar_singleton noAmp, replaceChar_singleton noLt,
      replaceChar_singleton noGt, replaceChar_singleton noQuot, replaceChar_singleton noApos]
  all_goals decide

/-- Every character is escaped by itself. -/
theorem escapeChars_eq_flatMap (cs : List Char) : escapeChars cs = cs.flatMap escapeChar := by
  induction cs with
  | nil => rfl
  | cons c cs ih =>
    -- Each pass goes through the characters one by one, so the first one can be set apart.
    have split : escapeChars (c :: cs) = escapeChars [c] ++ escapeChars cs := by
      simp only [escapeChars, replaceChar, List.flatMap_cons, List.flatMap_append, List.flatMap_nil,
        List.append_nil]
    rw [split, ih, escapeChars_singleton, List.flatMap_cons]

private theorem tagFree_escapeChar (c : Char) : TagFree (String.ofList (escapeChar c)) := by
  unfold escapeChar
  split
  case h_6 noAmp noLt noGt noQuot noApos =>
    refine .char c ?_
    simp only [markupChars, List.mem_cons, List.not_mem_nil, or_false, not_or]
    exact ⟨noLt, noGt, noAmp, noQuot, noApos⟩
  all_goals exact .reference _ (by decide)

/-- Escaped text has no tags. -/
theorem tagFree_escape (text : String) : TagFree (escape text) := by
  rw [escape, escapeChars_eq_flatMap]
  induction text.toList with
  | nil => exact .empty
  | cons c cs ih =>
    rw [List.flatMap_cons, String.ofList_append]
    exact (tagFree_escapeChar c).append ih

/-! ## Trimming -/

/-- The end of a joined text is trimmed in its second part, unless that is blank. -/
theorem trimEnd_append (s s' : String) :
    trimEnd (s ++ s') = if trimEnd s' = "" then trimEnd s else s ++ trimEnd s' := by
  rw [trimEnd, trimEnd, trimEnd, dropBlankEnd, String.toList_append, List.reverse_append,
    List.dropWhile_append]
  simp only [dropBlankEnd, List.isEmpty_iff, String.ofList_eq_empty_iff, List.reverse_eq_nil_iff]
  split
  · rfl
  · rw [List.reverse_append, List.reverse_reverse, String.ofList_append, String.ofList_toList]

/-- Trimming brings in no characters. -/
theorem mem_of_mem_trimEnd (mem : c ∈ (trimEnd s).toList) : c ∈ s.toList := by
  rw [trimEnd, String.toList_ofList, dropBlankEnd, List.mem_reverse] at mem
  exact List.mem_reverse.mp ((List.dropWhile_sublist _).subset mem)

/-- What ends in a text without blanks at its end is not trimmed. -/
theorem trimEnd_append_of_eq_self (nonempty : s' ≠ "") (trimmed : trimEnd s' = s') :
    trimEnd (s ++ s') = s ++ s' := by
  rw [trimEnd_append, trimmed, if_neg nonempty]

/-- A reference ends with a semicolon, so trimming takes none apart. -/
theorem TagFree.trimEnd (h : TagFree s) : TagFree (trimEnd s) := by
  induction h with
  | empty => exact .empty
  | char c plain =>
    rw [TexMarkup.trimEnd, String.toList_singleton, dropBlankEnd, List.reverse_singleton,
      List.dropWhile_cons]
    split
    · exact .empty
    · exact .char c plain
  | reference r known =>
    have trimmed : ∀ r ∈ references, TexMarkup.trimEnd r = r := by decide
    rw [trimmed r known]
    exact .reference r known
  | @append s s' ofS ofS' ih ih' =>
    rw [trimEnd_append]
    split
    · exact ih
    · exact ofS.append ih'

/-- Dropping the blanks at the end keeps HTML balanced. -/
theorem Balanced.trimEnd (h : Balanced s) : Balanced (trimEnd s) := by
  induction h with
  | text tagFree => exact .text tagFree.trimEnd
  | lineBreak => exact .lineBreak
  | image ofSource ofAlternative =>
    rw [trimEnd_append_of_eq_self (by decide) (by decide)]
    exact .image ofSource ofAlternative
  | anchor ofTarget ofContent =>
    rw [trimEnd_append_of_eq_self (by decide) (by decide)]
    exact .anchor ofTarget ofContent
  | element opening ofContent =>
    rw [trimEnd_append_of_eq_self (by decide) (by decide)]
    exact .element opening ofContent
  | @append s s' ofS ofS' ih ih' =>
    rw [trimEnd_append]
    split
    · exact ih
    · exact ofS.append ih'

/-! ## The pieces of rendered text -/

/-- A property of HTML that text, line breaks and elements have, and that joining
keeps. -/
structure ElementClosed (P : String → Prop) : Prop where
  text : ∀ {s}, TagFree s → P s
  lineBreak : P "<br/>"
  element : ∀ {tag attributes content}, Opening tag attributes → P content →
    P ("<" ++ tag ++ attributes ++ ">" ++ content ++ "</" ++ tag ++ ">")
  append : ∀ {s s'}, P s → P s' → P (s ++ s')

/-- Balanced text is closed under everything that is put together. -/
theorem elementClosed_balanced : ElementClosed Balanced where
  text := .text
  lineBreak := .lineBreak
  element := .element
  append := .append

namespace ElementClosed

variable {P : String → Prop} {content : String}

theorem escape (h : ElementClosed P) (text : String) : P (escape text) :=
  h.text (tagFree_escape text)

/-- The elements of the table keep the property. -/
theorem wrapTag (h : ElementClosed P) {tag : String} (opening : Opening tag "") (own : P content) :
    P (wrapTag tag content) := by
  have element := h.element opening own
  rwa [String.append_empty] at element

theorem wrapTagWith (h : ElementClosed P) {tag attributes : String}
    (opening : Opening tag (" " ++ attributes)) (own : P content) :
    P (wrapTagWith tag attributes content) := by
  have element := h.element opening own
  rwa [← String.append_assoc] at element

theorem newline (h : ElementClosed P) : P "\n" :=
  h.text (tagFree_of_plain (by decide))

theorem wrapParagraph (h : ElementClosed P) (own : P content) : P (wrapParagraph content) := by
  have lines : P ("\n" ++ content ++ "\n") := h.append (h.append h.newline own) h.newline
  have framed := h.append (h.wrapTag Opening.paragraph lines) h.newline
  have opened : "<" ++ "p" ++ ">" ++ "\n" = "<p>\n" := rfl
  have closed : "\n" ++ "</" ++ "p" ++ ">" ++ "\n" = "\n</p>\n" := rfl
  rw [Html.wrapParagraph, ← opened, ← closed]
  simpa only [Html.wrapTag, String.append_assoc] using framed

/-- Whatever a message says, its marker has the property. -/
theorem errorMarker (h : ElementClosed P) (message : String) : P (errorMarker message) := by
  have opening : P "[" := h.text (tagFree_of_plain (by decide))
  have closing : P "]" := h.text (tagFree_of_plain (by decide))
  have element := h.element Opening.marker (h.append (h.append opening (h.escape message)) closing)
  have opened : "<" ++ "span" ++ " style=\"color: red\"" ++ ">" ++ "[" =
      "<span style=\"color: red\">[" := rfl
  have closed : "]" ++ "</" ++ "span" ++ ">" = "]</span>" := rfl
  -- The equation of `errorMarker` is slow to state, its body is not.
  show P ("<span style=\"color: red\">[" ++ Html.escape message ++ "]</span>")
  rw [← opened, ← closed]
  simpa only [String.append_assoc] using element

end ElementClosed

/-- The output of a handler, if it is fixed. -/
def literalOutput? : Handler → Option String
  | .literal output => some output
  | _ => none

/-- A literal command writes text or a line break. -/
theorem literal_cases {name output : String}
    (table : (name, Handler.literal output) ∈ commandTable) :
    output = "\n" ++ "<br/>" ++ "\n" ∨ ∀ c ∈ output.toList, c ∉ markupChars := by
  have checked : ∀ entry ∈ commandTable, ∀ output ∈ literalOutput? entry.2,
      output = "\n" ++ "<br/>" ++ "\n" ∨ ∀ c ∈ output.toList, c ∉ markupChars := by
    decide +kernel
  exact checked _ table output rfl

/-- The outputs of literal commands have it too. -/
theorem ElementClosed.literal {P : String → Prop} (h : ElementClosed P) {name output : String}
    (table : (name, Handler.literal output) ∈ commandTable) : P output := by
  rcases literal_cases table with rfl | plain
  · exact h.append (h.append h.newline h.lineBreak) h.newline
  · exact h.text (tagFree_of_plain plain)

end TexMarkup.Html
