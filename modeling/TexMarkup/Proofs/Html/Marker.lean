import Mathlib.Data.List.Infix
import TexMarkup.Proofs.Html.Tags

/-!
# Markers in HTML

A reader recognises a failure by its marker: an opening tag in red, a message in brackets
without tags, and the closing tag. Where HTML is put together from text, from tags and from
markers, a reader finds the markers that were meant, in their order, and no others.

## Main definitions

* `marker?`: the marker at the front of a text.
* `markers`: all markers of a text, from left to right.
* `Shows`: HTML put together from text, tags and markers.

## Main results

* `marker?_eq_some`: what a marker is.
* `Shows.markers_eq`: a reader finds the markers that are shown.
* `Shows.trimEnd`, `Shows.element`, `Shows.anchor`, `Shows.image`: the pieces of HTML.
-/

namespace TexMarkup.Html

/-- What stands in front of the message of a marker. -/
def markerOpening : List Char := "<span style=\"color: red\">[".toList

/-- The closing tag of a marker. -/
def markerClosing : List Char := "</span>".toList

/-- The marker at the front of a text, as it stands there. Its message has no tags, so the
bracket that closes it is the last character in front of the next tag. -/
def marker? (cs : List Char) : Option String :=
  (markerOpening.isPrefixOf? cs).bind fun rest =>
    let run := rest.takeWhile (· != '<')
    if run.getLast? = some ']' ∧ markerClosing <+: rest.dropWhile (· != '<') then
      some (String.ofList (markerOpening ++ run ++ markerClosing))
    else none

/-- The markers of a text, from left to right. -/
def markers (cs : List Char) : List String :=
  cs.tails.filterMap marker?

/-- The inside of a tag with which no marker begins, whatever comes after the tag. -/
def NoMarker (inner : List Char) : Prop :=
  '<' ∉ inner ∧ ¬ markerOpening.tail <+: inner ++ ['>'] ∧ ¬ inner ++ ['>'] <+: markerOpening.tail

instance (inner : List Char) : Decidable (NoMarker inner) :=
  inferInstanceAs (Decidable (_ ∧ _ ∧ _))

/-- HTML put together from text, tags and markers, with the markers in their order. -/
inductive Shows : String → List String → Prop
  | text {s : String} : '<' ∉ s.toList → Shows s []
  | tag {inner : String} : NoMarker inner.toList → Shows ("<" ++ inner ++ ">") []
  | marker (message : String) : Shows (errorMarker message) [errorMarker message]
  | append {s s' : String} {shown shown' : List String} : Shows s shown → Shows s' shown' →
    Shows (s ++ s') (shown ++ shown')

variable {s content target : String} {shown : List String} {cs inner message : List Char}

/-! ## What a reader finds -/

theorem markerClosing_append (rest : List Char) :
    markerClosing ++ rest = '<' :: ("/span".toList ++ '>' :: rest) := by
  have chars : markerClosing = '<' :: ("/span".toList ++ ['>']) := by decide
  rw [chars, List.cons_append, List.append_assoc, List.singleton_append]

/-- A marker is the opening, a message without tags, a bracket and the closing tag. -/
theorem marker?_eq_some {found : String} :
    marker? cs = some found ↔ ∃ message rest, '<' ∉ message ∧
      cs = markerOpening ++ (message ++ ']' :: (markerClosing ++ rest)) ∧
      found = String.ofList (markerOpening ++ (message ++ [']']) ++ markerClosing) := by
  rw [marker?, Option.bind_eq_some_iff]
  constructor
  · rintro ⟨rest, opened, closed⟩
    have split := List.isPrefixOf?_eq_some_iff_append_eq.mp opened
    dsimp only at closed
    split at closed
    · rename_i ends
      obtain ⟨bracket, after, closing⟩ := ends
      obtain ⟨message, run⟩ := List.getLast?_eq_some_iff.mp bracket
      have noTag : '<' ∉ message ++ [']'] := by
        rw [← run]
        exact fun mem => by simpa using List.mem_takeWhile_imp mem
      refine ⟨message, after, fun mem => noTag (List.mem_append_left _ mem), ?_, ?_⟩
      · calc cs = markerOpening ++ rest := split.symm
          _ = markerOpening ++ (rest.takeWhile (· != '<') ++ rest.dropWhile (· != '<')) := by
            rw [List.takeWhile_append_dropWhile]
          _ = markerOpening ++ (message ++ ']' :: (markerClosing ++ after)) := by
            rw [run, closing, List.append_assoc, List.singleton_append]
      · rw [← run]
        exact (Option.some.inj closed).symm
    · cases closed
  · rintro ⟨message, rest, noTag, rfl, rfl⟩
    have noTag' : '<' ∉ message ++ [']'] := by simp [noTag]
    obtain ⟨taken, left⟩ := takeWhile_dropWhile_of_not_mem noTag' ("/span".toList ++ '>' :: rest)
    have same : message ++ ']' :: (markerClosing ++ rest) =
        (message ++ [']']) ++ '<' :: ("/span".toList ++ '>' :: rest) := by
      rw [markerClosing_append, List.append_assoc, List.singleton_append]
    refine ⟨message ++ ']' :: (markerClosing ++ rest),
      List.isPrefixOf?_eq_some_iff_append_eq.mpr rfl, ?_⟩
    dsimp only
    rw [same, taken, left, if_pos ⟨List.getLast?_concat, rest, markerClosing_append rest⟩]

theorem marker?_cons_of_ne {c : Char} (other : c ≠ '<') (rest : List Char) :
    marker? (c :: rest) = none := by
  rw [Option.eq_none_iff_forall_ne_some]
  intro found isMarker
  obtain ⟨message, after, -, same, -⟩ := marker?_eq_some.mp isMarker
  exact other (List.cons.inj same).1

theorem marker?_tag (h : NoMarker inner) (rest : List Char) :
    marker? ('<' :: (inner ++ '>' :: rest)) = none := by
  rw [Option.eq_none_iff_forall_ne_some]
  intro found isMarker
  obtain ⟨message, after, -, same, -⟩ := marker?_eq_some.mp isMarker
  -- One of the tag and the opening would begin with the other.
  have begins : inner ++ ['>'] ++ rest =
      markerOpening.tail ++ (message ++ ']' :: (markerClosing ++ after)) := by
    rw [List.append_assoc]
    exact (List.cons.inj same).2
  rcases List.append_eq_append_iff.mp begins with ⟨between, split, -⟩ | ⟨between, split, -⟩
  · exact h.2.2 ⟨between, split.symm⟩
  · exact h.2.1 ⟨between, split.symm⟩

theorem markers_cons (c : Char) (cs : List Char) :
    markers (c :: cs) = (marker? (c :: cs)).toList ++ markers cs := by
  rw [markers, List.tails_cons, List.filterMap_cons, markers]
  cases marker? (c :: cs) <;> rfl

/-- Text has no markers. -/
theorem markers_append (noTag : '<' ∉ cs) (rest : List Char) :
    markers (cs ++ rest) = markers rest := by
  induction cs with
  | nil => rfl
  | cons c cs ih =>
    rw [List.mem_cons, not_or] at noTag
    rw [List.cons_append, markers_cons, marker?_cons_of_ne (Ne.symm noTag.1), ih noTag.2]
    rfl

theorem markers_tag (h : NoMarker inner) (rest : List Char) :
    markers ('<' :: (inner ++ '>' :: rest)) = markers rest := by
  have noTag : '<' ∉ inner ++ ['>'] := by simp [h.1]
  have inside := markers_append noTag rest
  rw [List.append_assoc, List.singleton_append] at inside
  rw [markers_cons, marker?_tag h, inside]
  rfl

/-- The marker of a message without tags is found, and nothing else in it. -/
theorem markers_marker (noTag : '<' ∉ message) (rest : List Char) :
    markers (markerOpening ++ (message ++ ']' :: (markerClosing ++ rest))) =
      String.ofList (markerOpening ++ (message ++ [']']) ++ markerClosing) :: markers rest := by
  have found := marker?_eq_some.mpr ⟨message, rest, noTag, rfl, rfl⟩
  -- Behind its first character the next tag is the closing one, which opens no marker.
  have closing : markers (markerClosing ++ rest) = markers rest := by
    rw [markerClosing_append]
    exact markers_tag (by decide) rest
  have noTag' : '<' ∉ markerOpening.tail ++ (message ++ [']']) := by
    have inOpening : '<' ∉ markerOpening.tail := by decide
    simp [noTag, inOpening]
  have inside := markers_append noTag' (markerClosing ++ rest)
  rw [List.append_assoc, List.append_assoc, List.singleton_append] at inside
  have opening : markerOpening = '<' :: markerOpening.tail := by decide
  rw [opening, List.cons_append] at found ⊢
  rw [markers_cons, found, inside, closing]
  rfl

/-- Markers come from the escaped messages, which have no tags. -/
theorem toList_errorMarker (message : String) :
    (errorMarker message).toList =
      markerOpening ++ ((escape message).toList ++ ']' :: markerClosing) := by
  show ("<span style=\"color: red\">[" ++ escape message ++ "]</span>").toList = _
  rw [String.toList_append, String.toList_append, List.append_assoc]
  rfl

namespace Shows

theorem markers_append (h : Shows s shown) (rest : List Char) :
    markers (s.toList ++ rest) = shown ++ markers rest := by
  -- On the pieces, with what comes after them free: it cannot complete a marker.
  induction h generalizing rest with
  | text noTag => exact Html.markers_append noTag rest
  | @tag inner noMarker =>
    have chars : ("<" ++ inner ++ ">").toList ++ rest = '<' :: (inner.toList ++ '>' :: rest) := by
      simp
    rw [chars]
    exact markers_tag noMarker rest
  | marker message =>
    have found := markers_marker (tagFree_escape message).not_mem.1 rest
    have same : String.ofList (markerOpening ++ ((escape message).toList ++ [']']) ++
        markerClosing) = errorMarker message := by
      rw [← String.toList_inj, String.toList_ofList, toList_errorMarker, List.append_assoc,
        List.append_assoc, List.singleton_append]
    rw [toList_errorMarker, List.append_assoc, List.append_assoc, List.cons_append, found, same]
    rfl
  | append _ _ ih ih' => rw [String.toList_append, List.append_assoc, ih, ih', List.append_assoc]

/-- A reader finds the markers that are shown. -/
theorem markers_eq (h : Shows s shown) : markers s.toList = shown := by
  have found := h.markers_append []
  rwa [List.append_nil, show markers [] = [] from rfl, List.append_nil] at found

theorem eq_nil (h : Shows "" shown) : shown = [] :=
  h.markers_eq.symm

/-- Dropping the blanks at the end cuts no marker. -/
theorem trimEnd (h : Shows s shown) : Shows (trimEnd s) shown := by
  induction h with
  | text noTag => exact .text fun mem => noTag (mem_of_mem_trimEnd mem)
  | tag noMarker =>
    rw [trimEnd_append_of_eq_self (by decide) (by decide)]
    exact .tag noMarker
  | marker message =>
    have trimmed : TexMarkup.trimEnd (errorMarker message) = errorMarker message :=
      trimEnd_append_of_eq_self (by decide) (by decide)
    rw [trimmed]
    exact .marker message
  | append ofS ofS' ih ih' =>
    rw [trimEnd_append]
    split
    · -- A part that is dropped whole shows no marker.
      rename_i dropped
      rw [dropped] at ih'
      rw [ih'.eq_nil, List.append_nil]
      exact ih
    · exact ofS.append ih'

end Shows

/-! ## Pieces of HTML -/

/-- The tags of a command of the table, and those of a paragraph. -/
theorem noMarker_opening {name : String} {handler : Handler} {opening : String × String}
    (table : (name, handler) ∈ commandTable) (opens : opening? handler = some opening) :
    NoMarker (opening.1 ++ opening.2).toList ∧ NoMarker ("/" ++ opening.1).toList := by
  have checked : ∀ entry ∈ commandTable, ∀ opening ∈ opening? entry.2,
      NoMarker (opening.1 ++ opening.2).toList ∧ NoMarker ("/" ++ opening.1).toList := by
    decide +kernel
  exact checked _ table _ opens

/-- A tag of another name than that of a marker. -/
theorem noMarker_cons {c : Char} (noTag : '<' ∉ c :: inner) (other : c ≠ 's') :
    NoMarker (c :: inner) := by
  refine ⟨noTag, ?_, ?_⟩
  · rintro ⟨rest, same⟩
    exact other (List.cons.inj same).1.symm
  · rintro ⟨rest, same⟩
    exact other (List.cons.inj same).1

namespace Shows

/-- An element shows what its content does. -/
theorem element {tag attributes : String} (opens : NoMarker (tag ++ attributes).toList)
    (closes : NoMarker ("/" ++ tag).toList) (h : Shows content shown) :
    Shows ("<" ++ tag ++ attributes ++ ">" ++ content ++ "</" ++ tag ++ ">") shown := by
  have whole := ((Shows.tag opens).append h).append (.tag closes)
  have closing : "</" = "<" ++ "/" := rfl
  rw [List.nil_append, List.append_nil] at whole
  simpa only [closing, String.append_assoc] using whole

theorem wrapTag {tag : String} (opens : NoMarker tag.toList) (closes : NoMarker ("/" ++ tag).toList)
    (h : Shows content shown) : Shows (wrapTag tag content) shown := by
  have opens' : NoMarker (tag ++ "").toList := by rwa [String.append_empty]
  have whole := element opens' closes h
  rwa [String.append_empty] at whole

theorem wrapTagWith {tag attributes : String} (opens : NoMarker (tag ++ (" " ++ attributes)).toList)
    (closes : NoMarker ("/" ++ tag).toList) (h : Shows content shown) :
    Shows (wrapTagWith tag attributes content) shown := by
  have whole := element opens closes h
  rwa [← String.append_assoc] at whole

theorem wrapParagraph (h : Shows content shown) : Shows (wrapParagraph content) shown := by
  have newline : Shows "\n" [] := .text (by decide)
  have lines := (newline.append h).append newline
  have framed := (wrapTag (by decide : NoMarker "p".toList) (by decide) lines).append newline
  have opened : "<" ++ "p" ++ ">" ++ "\n" = "<p>\n" := rfl
  have closed : "\n" ++ "</" ++ "p" ++ ">" ++ "\n" = "\n</p>\n" := rfl
  rw [Html.wrapParagraph, ← opened, ← closed]
  simpa only [Html.wrapTag, String.append_assoc, List.nil_append, List.append_nil] using framed

/-- A link shows what its content does. -/
theorem anchor (noTag : '<' ∉ target.toList) (h : Shows content shown) :
    Shows (anchor target content) shown := by
  have opens : NoMarker ("a" ++ (" href=\"" ++ target ++ "\"")).toList := by
    have chars : ("a" ++ (" href=\"" ++ target ++ "\"")).toList =
        'a' :: (" href=\"" ++ target ++ "\"").toList := by simp
    rw [chars]
    exact noMarker_cons (by simp [noTag]) (by decide)
  have whole := element opens (by decide) h
  have opened : "<a href=\"" = "<" ++ "a" ++ " href=\"" ∧ "\">" = "\"" ++ ">" := ⟨rfl, rfl⟩
  have closed : "</a>" = "</" ++ "a" ++ ">" := rfl
  simpa only [Html.anchor, opened, closed, String.append_assoc] using whole

/-- An image shows no marker. -/
theorem image {source alternative : String} (noTag : '<' ∉ source.toList)
    (noTag' : '<' ∉ alternative.toList) : Shows (image source alternative) [] := by
  have inside : NoMarker
      ("i" ++ ("mg src=\"" ++ source ++ "\" alt=\"" ++ alternative ++ "\"/")).toList := by
    have chars : ("i" ++ ("mg src=\"" ++ source ++ "\" alt=\"" ++ alternative ++ "\"/")).toList =
        'i' :: ("mg src=\"" ++ source ++ "\" alt=\"" ++ alternative ++ "\"/").toList := by simp
    rw [chars]
    exact noMarker_cons (by simp [noTag, noTag']) (by decide)
  have whole := Shows.tag inside
  have opened : "<img src=\"" = "<" ++ "i" ++ "mg src=\"" := rfl
  have closed : "\"/>" = "\"/" ++ ">" := rfl
  simpa only [Html.image, opened, closed, String.append_assoc] using whole

end Shows

end TexMarkup.Html
