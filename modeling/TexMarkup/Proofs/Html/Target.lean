import TexMarkup.Proofs.Html.Tags

/-!
# The targets of links and images

A reader of HTML finds a target behind `<a href="` and behind `<img src="`, up to the
next quotation mark. Where HTML is put together from text, from tags without targets and
from tags with accepted ones, a reader finds no others, however the pieces are nested.

## Main definitions

* `IsTarget`: a value that a reader finds.
* `Quotable`: a text that can stand as a target.
* `Targets`: HTML whose tags have accepted targets.

## Main results

* `Targets.of_isTarget`: a reader finds accepted targets only.
* `elementClosed_targets`, `Targets.trimEnd`, `Targets.anchor`, `Targets.image`: the
  pieces of HTML.
-/

namespace TexMarkup.Html

/-- What stands in front of a target. -/
def targetOpenings : List String := ["<a href=\"", "<img src=\""]

/-- A value that a reader of the text finds as the target of a link or an image. -/
def IsTarget (html value : String) : Prop :=
  ∃ opening ∈ targetOpenings, ∃ before after,
    html = before ++ opening ++ value ++ "\"" ++ after ∧ '"' ∉ value.toList

/-- A text that can stand as a target. -/
def Quotable (s : String) : Prop :=
  '<' ∉ s.toList ∧ '"' ∉ s.toList

/-- What stands between the brackets of a tag without a target. -/
def NoTarget (inner : List Char) : Prop :=
  '<' ∉ inner ∧ ∀ opening ∈ targetOpenings, ¬ opening.toList.tail <+: inner

instance (s : String) : Decidable (Quotable s) :=
  inferInstanceAs (Decidable (_ ∧ _))

instance (inner : List Char) : Decidable (NoTarget inner) :=
  inferInstanceAs (Decidable (_ ∧ _))

/-- HTML whose tags have no targets but accepted ones. -/
inductive Targets (accepted : String → Prop) : String → Prop
  | text {s : String} : '<' ∉ s.toList → Targets accepted s
  | tag {inner : String} : NoTarget inner.toList → Targets accepted ("<" ++ inner ++ ">")
  | target {opening value rest : String} : opening ∈ targetOpenings → accepted value →
    Quotable value → '<' ∉ rest.toList →
    Targets accepted (opening ++ value ++ "\"" ++ rest ++ ">")
  | append {s s' : String} : Targets accepted s → Targets accepted s' → Targets accepted (s ++ s')

variable {accepted : String → Prop} {s s' html value : String} {c : Char}
  {cs before after rest inner : List Char}

/-! ## What a reader finds -/

/-- A character that stands in the first part of a text splits that part. -/
theorem exists_of_append_eq_append_cons (same : cs ++ rest = before ++ c :: after)
    (inFirst : before.length < cs.length) :
    ∃ inner, cs = before ++ c :: inner ∧ after = inner ++ rest := by
  rcases List.append_eq_append_iff.mp same with ⟨between, split, -⟩ | ⟨between, split, split'⟩
  · rw [split, List.length_append] at inFirst
    omega
  · cases between with
    | nil =>
      rw [split, List.append_nil] at inFirst
      exact absurd inFirst (Nat.lt_irrefl _)
    | cons c' inner =>
      obtain ⟨rfl, rfl⟩ := List.cons.inj split'
      exact ⟨inner, split, rfl⟩

/-- What comes before the first occurrence of a character is determined. -/
theorem eq_of_append_cons_eq {cs' : List Char} (notIn : c ∉ cs) (notIn' : c ∉ cs')
    (same : cs ++ c :: rest = cs' ++ c :: after) : cs = cs' := by
  have taken := (takeWhile_dropWhile_of_not_mem notIn rest).1
  rw [← taken, same, (takeWhile_dropWhile_of_not_mem notIn' after).1]

theorem head_of_mem_targetOpenings {opening : String} (mem : opening ∈ targetOpenings) :
    opening.toList = '<' :: opening.toList.tail ∧ '<' ∉ opening.toList.tail ∧
      '>' ∉ opening.toList.tail := by
  have checked : ∀ opening ∈ targetOpenings, opening.toList = '<' :: opening.toList.tail ∧
      '<' ∉ opening.toList.tail ∧ '>' ∉ opening.toList.tail := by
    decide
  exact checked opening mem

/-- No opening begins with another one. -/
theorem eq_of_mem_targetOpenings {opening opening' : String} (mem : opening ∈ targetOpenings)
    (mem' : opening' ∈ targetOpenings)
    (same : opening.toList.tail ++ rest = opening'.toList.tail ++ after) : opening = opening' := by
  simp only [targetOpenings, List.mem_cons, List.not_mem_nil, or_false] at mem mem'
  rcases mem with rfl | rfl <;> rcases mem' with rfl | rfl
  · rfl
  · exact absurd (List.cons.inj same).1 (by decide)
  · exact absurd (List.cons.inj same).1 (by decide)
  · rfl

/-- A tag begins where a target is found in it. -/
theorem eq_of_opening {opening : String} (mem : opening ∈ targetOpenings) (noTag : '<' ∉ inner)
    (same : '<' :: inner ++ rest = before ++ (opening.toList ++ after))
    (inFirst : before.length < ('<' :: inner).length) :
    opening.toList.tail ++ after = inner ++ rest := by
  rw [(head_of_mem_targetOpenings mem).1, List.cons_append] at same
  obtain ⟨inner', split, follows⟩ := exists_of_append_eq_append_cons same inFirst
  cases before with
  | nil =>
    obtain ⟨-, rfl⟩ := List.cons.inj split
    exact follows
  | cons c before =>
    obtain ⟨-, rfl⟩ := List.cons.inj split
    exact absurd (by simp) noTag

/-- No target begins in a tag without one. -/
theorem NoTarget.not_opening (h : NoTarget inner) {opening : String}
    (mem : opening ∈ targetOpenings)
    (same : '<' :: (inner ++ ['>']) ++ rest = before ++ (opening.toList ++ after))
    (inFirst : before.length < ('<' :: (inner ++ ['>'])).length) : False := by
  have follows := eq_of_opening mem (by simp [h.1]) same inFirst
  -- The opening holds no closing bracket, so it would have to stand in the tag.
  rw [List.append_assoc, List.singleton_append] at follows
  rcases List.append_eq_append_iff.mp follows with ⟨between, split, -⟩ | ⟨between, split, split'⟩
  · exact h.2 opening mem ⟨between, split.symm⟩
  · cases between with
    | nil => exact h.2 opening mem ⟨[], by simp [split]⟩
    | cons c between =>
      obtain ⟨rfl, -⟩ := List.cons.inj split'
      exact (head_of_mem_targetOpenings mem).2.2 (by simp [split])

/-- In a tag with a target no other one begins. -/
theorem eq_of_opening_target {opening opening' value' : String} (mem : opening ∈ targetOpenings)
    (mem' : opening' ∈ targetOpenings) (quoted : '"' ∉ value.toList) (quotable : Quotable value')
    (noTag : '<' ∉ inner)
    (same : '<' :: (opening'.toList.tail ++ (value'.toList ++ '"' :: inner)) ++ rest =
      before ++ (opening.toList ++ (value.toList ++ '"' :: after)))
    (inFirst : before.length <
      ('<' :: (opening'.toList.tail ++ (value'.toList ++ '"' :: inner))).length) :
    value = value' := by
  have noTag' := (head_of_mem_targetOpenings mem').2.1
  have follows := eq_of_opening mem (by simp [quotable.1, noTag, noTag']) same inFirst
  rw [List.append_assoc] at follows
  obtain rfl := eq_of_mem_targetOpenings mem mem' follows
  have values := List.append_cancel_left follows
  rw [List.append_assoc, List.cons_append] at values
  exact String.toList_inj.mp (eq_of_append_cons_eq quoted quotable.2 values)

/-- A target that begins in such HTML is accepted, whatever comes after it. -/
theorem Targets.accepted_of_eq (h : Targets accepted html) {opening : String}
    (mem : opening ∈ targetOpenings) (quoted : '"' ∉ value.toList)
    (same : html.toList ++ rest = before ++ (opening.toList ++ (value.toList ++ '"' :: after)))
    (inFirst : before.length < html.toList.length) : accepted value := by
  induction h generalizing before rest with
  | text noTag =>
    rw [(head_of_mem_targetOpenings mem).1, List.cons_append] at same
    obtain ⟨inner, split, -⟩ := exists_of_append_eq_append_cons same inFirst
    exact absurd (by simp [split]) noTag
  | @tag inner noTarget =>
    have chars : ("<" ++ inner ++ ">").toList = '<' :: (inner.toList ++ ['>']) := by simp
    rw [chars] at same inFirst
    exact (noTarget.not_opening mem same inFirst).elim
  | @target opening' value' rest' mem' ofValue quotable noTag =>
    have chars : (opening' ++ value' ++ "\"" ++ rest' ++ ">").toList =
        '<' :: (opening'.toList.tail ++ (value'.toList ++ '"' :: (rest'.toList ++ ['>']))) := by
      simp only [String.toList_append, List.append_assoc]
      rw [(head_of_mem_targetOpenings mem').1]
      rfl
    rw [chars] at same inFirst
    exact eq_of_opening_target mem mem' quoted quotable (by simp [noTag]) same inFirst ▸ ofValue
  | @append s s' _ _ ih ih' =>
    rw [String.toList_append] at same inFirst
    by_cases inS : before.length < s.toList.length
    · rw [List.append_assoc] at same
      exact ih same inS
    · -- The target begins in the second part, and the first part lies in front of it.
      obtain ⟨between, rfl⟩ : s.toList <+: before := by
        refine List.prefix_of_prefix_length_le ?_ ⟨_, same.symm⟩ (Nat.le_of_not_lt inS)
        exact ⟨s'.toList ++ rest, by rw [List.append_assoc]⟩
      rw [List.append_assoc, List.append_assoc] at same
      refine ih' (List.append_cancel_left same) ?_
      simp only [List.length_append] at inFirst
      omega

/-- A reader finds accepted targets only. -/
theorem Targets.of_isTarget (h : Targets accepted html) (found : IsTarget html value) :
    accepted value := by
  obtain ⟨opening, mem, before, after, split, quoted⟩ := found
  have same : html.toList ++ [] =
      before.toList ++ (opening.toList ++ (value.toList ++ '"' :: after.toList)) := by
    simp [split]
  have inside : before.toList.length < html.toList.length := by
    have length := congrArg List.length same
    simp only [List.append_nil, List.length_append, List.length_cons] at length
    omega
  exact h.accepted_of_eq mem quoted same inside

/-! ## Pieces of HTML -/

theorem TagFree.quotable (h : TagFree s) : Quotable s :=
  ⟨h.not_mem.1, h.not_mem_of_ne (by decide) (by decide)⟩

theorem Quotable.append (h : Quotable s) (h' : Quotable s') : Quotable (s ++ s') := by
  simp only [Quotable, String.toList_append, List.mem_append, not_or] at h h' ⊢
  exact ⟨⟨h.1, h'.1⟩, h.2, h'.2⟩

namespace Targets

/-- Dropping the blanks at the end cuts no tag. -/
theorem trimEnd (h : Targets accepted s) : Targets accepted (trimEnd s) := by
  induction h with
  | text noTag => exact .text fun mem => noTag (mem_of_mem_trimEnd mem)
  | tag noTarget =>
    rw [trimEnd_append_of_eq_self (by decide) (by decide)]
    exact .tag noTarget
  | target mem ofValue quotable noTag =>
    rw [trimEnd_append_of_eq_self (by decide) (by decide)]
    exact .target mem ofValue quotable noTag
  | append ofS ofS' ih ih' =>
    rw [trimEnd_append]
    split
    · exact ih
    · exact ofS.append ih'

end Targets

/-- The tags of an element without a target. -/
theorem Opening.noTarget {tag attributes : String} (h : Opening tag attributes) :
    NoTarget (tag ++ attributes).toList ∧ NoTarget ("/" ++ tag).toList := by
  have checked : ∀ entry ∈ commandTable, ∀ opening ∈ opening? entry.2,
      NoTarget (opening.1 ++ opening.2).toList ∧ NoTarget ("/" ++ opening.1).toList := by
    decide +kernel
  cases h with
  | @wrap _ tag table => exact checked _ table (tag, "") rfl
  | @wrapWith _ tag attributes table => exact checked _ table (tag, " " ++ attributes) rfl
  | marker => decide
  | paragraph => decide

theorem elementClosed_targets (accepted : String → Prop) : ElementClosed (Targets accepted) where
  text h := .text h.not_mem.1
  lineBreak := by
    have tag : Targets accepted ("<" ++ "br/" ++ ">") := .tag (by decide)
    exact tag
  element := by
    intro tag attributes content opening h
    obtain ⟨opens, closes⟩ := opening.noTarget
    have opened : Targets accepted ("<" ++ (tag ++ attributes) ++ ">") := .tag opens
    have whole := (opened.append h).append (.tag closes)
    have closing : "</" = "<" ++ "/" := rfl
    simpa only [closing, String.append_assoc] using whole
  append := .append

namespace Targets

/-- A link with an accepted target. -/
theorem anchor {content : String} (ofValue : accepted value) (quotable : Quotable value)
    (h : Targets accepted content) :
    Targets accepted (anchor value content) := by
  have opened : Targets accepted ("<a href=\"" ++ value ++ "\"" ++ "" ++ ">") :=
    .target (by decide) ofValue quotable (by decide)
  have closing : Targets accepted ("<" ++ "/a" ++ ">") := .tag (by decide)
  have whole := (opened.append h).append closing
  have brackets : "\">" = "\"" ++ ">" ∧ "</a>" = "<" ++ "/a" ++ ">" := ⟨rfl, rfl⟩
  simpa only [Html.anchor, brackets, String.append_assoc, String.append_empty] using whole

/-- An image with an accepted source. -/
theorem image {alternative : String} (ofValue : accepted value) (quotable : Quotable value)
    (noTag : '<' ∉ alternative.toList) :
    Targets accepted (image value alternative) := by
  have whole : Targets accepted
      ("<img src=\"" ++ value ++ "\"" ++ (" alt=\"" ++ alternative ++ "\"/") ++ ">") :=
    .target (by decide) ofValue quotable (by simp [noTag])
  have quotes : "\" alt=\"" = "\"" ++ " alt=\"" ∧ "\"/>" = "\"/" ++ ">" := ⟨rfl, rfl⟩
  simpa only [Html.image, quotes, String.append_assoc] using whole

end Targets

end TexMarkup.Html
