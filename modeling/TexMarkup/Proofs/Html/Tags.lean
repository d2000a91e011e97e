import TexMarkup.Proofs.Html.Balanced
import TexMarkup.Proofs.Text.Run

/-!
# The tags of balanced HTML

A reader of HTML takes everything from a `<` to the next `>` for a tag. What it
finds in balanced HTML are the tags that were meant: every element that is opened
is closed again, in the right order.

## Main definitions

* `tags`: the tags of a text, as a reader finds them.
* `tagsMatch`: whether tags open and close elements in order.
* `withoutTags`: a text without its tags.
* `ShowsText`: what HTML is without its tags, also in front of more HTML.

## Main results

* `tags_errorMarker`: the tags of markers.
* `Balanced.tagsMatch_eq_true`: the tags of balanced HTML match.
* `ShowsText.wrapTag`, `ShowsText.wrapTagWith`: elements of the table show what their content shows.
-/

namespace TexMarkup.Html

/-- What stands between each `<` and the next `>`. -/
def tags : List Char → List (List Char)
  | [] => []
  | c :: cs =>
    if c = '<' then cs.takeWhile (· != '>') :: tags (cs.dropWhile (· != '>')) else tags cs
termination_by cs => cs.length
decreasing_by
  · exact Nat.lt_succ_of_le (List.dropWhile_sublist _).length_le
  · exact Nat.lt_succ_self _

/-- Whether tags close the open elements, the innermost first, and all that they open
themselves. A slash at the end of a tag says that nothing is opened. -/
def closes : List (List Char) → List (List Char) → Bool
  | stack, [] => stack.isEmpty
  | top :: below, ('/' :: name) :: rest => top == name && closes below rest
  | [], ('/' :: _) :: _ => false
  | stack, tag :: rest =>
    if tag.getLast? = some '/' then closes stack rest
    else closes (tag.takeWhile (· != ' ') :: stack) rest

/-- Whether the tags of a text open and close elements in order. -/
def tagsMatch (html : String) : Bool :=
  closes [] (tags html.toList)

variable {cs inner rest : List Char} {s : String} {stack : List (List Char)}

/-- Characters in front that open no tag are passed over. -/
theorem tags_append (noTag : '<' ∉ cs) (rest : List Char) : tags (cs ++ rest) = tags rest := by
  induction cs with
  | nil => rfl
  | cons c cs ih =>
    rw [List.mem_cons, not_or] at noTag
    rw [List.cons_append, tags, if_neg (Ne.symm noTag.1), ih noTag.2]

/-- A tag ends with the first closing angle bracket. -/
theorem tags_tag (inside : '>' ∉ inner) (rest : List Char) :
    tags ('<' :: (inner ++ '>' :: rest)) = inner :: tags rest := by
  obtain ⟨taken, left⟩ := takeWhile_dropWhile_of_not_mem inside rest
  rw [tags, if_pos rfl, taken, left, tags, if_neg (by decide)]

/-- Of the characters with a meaning of their own only the ampersand stands in text
without tags. -/
theorem TagFree.not_mem_of_ne {c : Char} (h : TagFree s) (reserved : c ∈ markupChars)
    (other : c ≠ '&') :
    c ∉ s.toList := by
  induction h with
  | empty => exact List.not_mem_nil
  | char d plain =>
    rw [String.toList_singleton, List.mem_singleton]
    rintro rfl
    exact plain reserved
  | reference r known =>
    have checked : ∀ r ∈ references, ∀ c ∈ markupChars, c ≠ '&' → c ∉ r.toList := by decide
    exact checked r known c reserved other
  | append _ _ ih ih' =>
    rw [String.toList_append, List.mem_append, not_or]
    exact ⟨ih, ih'⟩

theorem TagFree.not_mem (h : TagFree s) : '<' ∉ s.toList ∧ '>' ∉ s.toList :=
  ⟨h.not_mem_of_ne (by decide) (by decide), h.not_mem_of_ne (by decide) (by decide)⟩

/-! ## Elements -/

/-- The name and the attributes of an opening tag can be told apart. -/
structure Readable (tag attributes : List Char) : Prop where
  inside : '>' ∉ tag ++ attributes
  name : (tag ++ attributes).takeWhile (· != ' ') = tag
  opens : (tag ++ attributes).head? ≠ some '/' ∧ (tag ++ attributes).getLast? ≠ some '/'

theorem Readable.closing {tag attributes : List Char} (h : Readable tag attributes) :
    '>' ∉ '/' :: tag := by
  intro mem
  rcases List.mem_cons.mp mem with same | mem
  · exact absurd same (by decide)
  · exact h.inside (List.mem_append_left _ mem)

/-- A tag that closes no other one closes itself, or is open from there on. -/
theorem closes_of_head?_ne (notClosing : inner.head? ≠ some '/') (later : List (List Char)) :
    closes stack (inner :: later) =
      if inner.getLast? = some '/' then closes stack later
      else closes (inner.takeWhile (· != ' ') :: stack) later := by
  rcases inner with _ | ⟨c, inner⟩
  · cases stack <;> rfl
  · have other : c ≠ '/' := by
      rintro rfl
      exact notClosing rfl
    rw [closes]
    all_goals
      intros
      rename_i same
      exact other (List.cons_eq_cons.mp same).1

/-- An element with balanced content is closed where it ends. -/
theorem closes_element {tag attributes content : List Char} (readable : Readable tag attributes)
    (balanced : ∀ stack rest, closes stack (tags (content ++ rest)) = closes stack (tags rest))
    (stack : List (List Char)) (rest : List Char) :
    closes stack (tags ('<' :: (tag ++ attributes ++
      '>' :: (content ++ '<' :: ('/' :: tag ++ '>' :: rest))))) = closes stack (tags rest) := by
  -- The opening tag puts the name on the stack, the content leaves it there, and the
  -- closing tag finds it on top.
  rw [tags_tag readable.inside, closes_of_head?_ne readable.opens.1, if_neg readable.opens.2,
    readable.name, balanced, tags_tag readable.closing, closes, beq_self_eq_true, Bool.true_and]

/-- A tag that ends in a slash opens nothing. -/
theorem closes_void (inside : '>' ∉ inner) (notClosing : inner.head? ≠ some '/')
    (void : inner.getLast? = some '/') (stack : List (List Char)) (rest : List Char) :
    closes stack (tags ('<' :: (inner ++ '>' :: rest))) = closes stack (tags rest) := by
  rw [tags_tag inside, closes_of_head?_ne notClosing, if_pos void]

/-- The name and the attributes in the opening tag of a command. -/
def opening? : Handler → Option (String × String)
  | .wrap tag => some (tag, "")
  | .wrapWith tag attributes => some (tag, " " ++ attributes)
  | _ => none

instance (tag attributes : List Char) : Decidable (Readable tag attributes) :=
  decidable_of_iff ('>' ∉ tag ++ attributes ∧ (tag ++ attributes).takeWhile (· != ' ') = tag ∧
      (tag ++ attributes).head? ≠ some '/' ∧ (tag ++ attributes).getLast? ≠ some '/')
    ⟨fun h => ⟨h.1, h.2.1, h.2.2⟩, fun h => ⟨h.inside, h.name, h.opens⟩⟩

/-- The elements of the table have tags that can be read. -/
theorem Opening.readable {tag attributes : String} (h : Opening tag attributes) :
    Readable tag.toList attributes.toList := by
  have checked : ∀ entry ∈ commandTable, ∀ opening ∈ opening? entry.2,
      Readable opening.1.toList opening.2.toList := by
    decide +kernel
  cases h with
  | wrap table => exact checked _ table _ rfl
  | wrapWith table => exact checked _ table _ rfl
  | marker => decide
  | paragraph => decide

/-- So have links, since no target that is free of tags leaves its quotation marks. -/
theorem TagFree.readable_anchor {target : String} (h : TagFree target) :
    Readable ['a'] (" href=\"".toList ++ target.toList ++ ['"']) := by
  refine ⟨?_, rfl, Ne.symm (by simp), ?_⟩
  · simp [h.not_mem.2]
  · rw [← List.append_assoc, List.getLast?_concat]
    decide

/-- A marker has no tags but those of its own element, whatever its message is. -/
theorem tags_errorMarker (message : String) :
    tags (errorMarker message).toList = ["span style=\"color: red\"".toList, "/span".toList] := by
  have opened : "<span style=\"color: red\">[" =
      "<" ++ "span style=\"color: red\"" ++ ">" ++ "[" := rfl
  have closed : "]</span>" = "]" ++ "<" ++ "/span" ++ ">" := rfl
  have noTag : '<' ∉ "[".toList ++ ((escape message).toList ++ "]".toList) := by
    simp [(tagFree_escape message).not_mem.1]
  have inside : '>' ∉ "span style=\"color: red\"".toList ∧ '>' ∉ "/span".toList := by decide
  show tags ("<span style=\"color: red\">[" ++ escape message ++ "]</span>").toList = _
  rw [opened, closed]
  simp only [String.toList_append, List.append_assoc]
  generalize "span style=\"color: red\"".toList = opening at inside ⊢
  generalize "/span".toList = closing at inside ⊢
  generalize (escape message).toList = text at noTag ⊢
  have bracketed : tags ("[".toList ++ (text ++ ("]".toList ++ '<' :: (closing ++ '>' :: [])))) =
      [closing] := by
    rw [← List.append_assoc text, ← List.append_assoc, tags_append noTag, tags_tag inside.2, tags]
  exact (tags_tag inside.1 _).trans (congrArg (opening :: ·) bracketed)

/-! ## Balanced HTML -/

/-- Reading balanced text leaves the open tags as they were. -/
theorem Balanced.closes (h : Balanced s) (stack : List (List Char)) (rest : List Char) :
    closes stack (tags (s.toList ++ rest)) = closes stack (tags rest) := by
  -- On the derivation, for every stack: content is read on that of its element.
  induction h generalizing stack rest with
  | text tagFree => rw [tags_append tagFree.not_mem.1]
  | lineBreak =>
    have inside : '>' ∉ "br/".toList := by decide
    exact closes_void inside (by decide) (by decide) stack rest
  | @image source alternative ofSource ofAlternative =>
    have inside : '>' ∉ "img src=\"".toList ++ source.toList ++ "\" alt=\"".toList ++
        alternative.toList ++ ['"'] ++ ['/'] := by
      simp [ofSource.not_mem.2, ofAlternative.not_mem.2]
    have void := closes_void inside (by simp) List.getLast?_concat stack rest
    simpa using void
  | @anchor target content ofTarget ofContent ih =>
    have element := closes_element ofTarget.readable_anchor ih stack rest
    simpa using element
  | @element tag attributes content opening ofContent ih =>
    have element := closes_element opening.readable ih stack rest
    simpa using element
  | append _ _ ih ih' => rw [String.toList_append, List.append_assoc, ih, ih']

/-- The tags of balanced HTML open and close elements in order. -/
theorem Balanced.tagsMatch_eq_true (h : Balanced s) : tagsMatch s = true := by
  have closed := h.closes [] []
  rw [List.append_nil] at closed
  rw [tagsMatch, closed, tags]
  rfl

/-! ## What is left without tags -/

/-- The characters outside of tags. A `<` that no `>` follows begins no tag. -/
def withoutTags : List Char → List Char
  | [] => []
  | c :: cs =>
    if c = '<' ∧ '>' ∈ cs then withoutTags (cs.dropWhile (· != '>')).tail else c :: withoutTags cs
termination_by cs => cs.length
decreasing_by
  · exact Nat.lt_succ_of_le ((List.tail_sublist _).trans (List.dropWhile_sublist _)).length_le
  · exact Nat.lt_succ_self _

theorem withoutTags_append (noTag : '<' ∉ cs) (rest : List Char) :
    withoutTags (cs ++ rest) = cs ++ withoutTags rest := by
  induction cs with
  | nil => rfl
  | cons c cs ih =>
    rw [List.mem_cons, not_or] at noTag
    rw [List.cons_append, withoutTags, if_neg fun tag => noTag.1 tag.1.symm, ih noTag.2,
      List.cons_append]

theorem withoutTags_tag (inside : '>' ∉ inner) (rest : List Char) :
    withoutTags ('<' :: (inner ++ '>' :: rest)) = withoutTags rest := by
  have closed : '>' ∈ inner ++ '>' :: rest := List.mem_append_right _ List.mem_cons_self
  rw [withoutTags, if_pos ⟨rfl, closed⟩, (takeWhile_dropWhile_of_not_mem inside rest).2,
    List.tail_cons]

/-- Without its tags the HTML is the given text, whatever HTML follows. -/
def ShowsText (html shown : String) : Prop :=
  ∀ rest, withoutTags (html.toList ++ rest) = shown.toList ++ withoutTags rest

namespace ShowsText

variable {html html' shown shown' content tag attributes : String}

theorem text (h : TagFree s) : ShowsText s s :=
  withoutTags_append h.not_mem.1

theorem append (h : ShowsText html shown) (h' : ShowsText html' shown') :
    ShowsText (html ++ html') (shown ++ shown') := by
  intro rest
  rw [String.toList_append, String.toList_append, List.append_assoc, List.append_assoc, h, h']

/-- An element shows what its content shows. -/
theorem element (readable : Readable tag.toList attributes.toList) (h : ShowsText content shown) :
    ShowsText ("<" ++ tag ++ attributes ++ ">" ++ content ++ "</" ++ tag ++ ">") shown := by
  intro rest
  calc
    _ = withoutTags ('<' :: (tag.toList ++ attributes.toList ++
          '>' :: (content.toList ++ '<' :: ('/' :: tag.toList ++ '>' :: rest)))) := by simp
    _ = withoutTags (content.toList ++ '<' :: ('/' :: tag.toList ++ '>' :: rest)) :=
      withoutTags_tag readable.inside _
    _ = shown.toList ++ withoutTags ('<' :: ('/' :: tag.toList ++ '>' :: rest)) := h _
    _ = shown.toList ++ withoutTags rest := by rw [withoutTags_tag readable.closing]

theorem wrapTag (opening : Opening tag "") (h : ShowsText content shown) :
    ShowsText (wrapTag tag content) shown := by
  have element := h.element opening.readable
  rwa [String.append_empty] at element

theorem wrapTagWith (opening : Opening tag (" " ++ attributes)) (h : ShowsText content shown) :
    ShowsText (wrapTagWith tag attributes content) shown := by
  have element := h.element opening.readable
  rwa [← String.append_assoc] at element

/-- What shows of a text is what is left of it without its tags. -/
theorem withoutTags_eq (h : ShowsText html shown) : withoutTags html.toList = shown.toList := by
  have alone := h []
  rwa [List.append_nil, withoutTags, List.append_nil] at alone

end ShowsText

end TexMarkup.Html
