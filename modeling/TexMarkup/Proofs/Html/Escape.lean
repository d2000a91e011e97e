import TexMarkup.Proofs.Html.Tags

/-!
# Escaped text is read back

Text is escaped in five passes, and each pass goes over what the passes before it have
written. As the ampersand comes first and no reference holds another one of the five
characters, this is the same as escaping every character by itself. Every ampersand that is
left begins a reference, so one pass from left to right gives the text back.

## Main definitions

* `escapeReferences`: the references that are written for characters.
* `unescapeChars`, `unescape`: text with these references read from left to right.

## Main results

* `escape_append`: texts one after the other are escaped one after the other.
* `escapeReference_of_ampersand`: where ampersands stand in escaped text.
* `unescapeChars_flatMap`: reading the references undoes the escaping.
* `escape_reversible`: escaping as one reversible pass.
-/

namespace TexMarkup.Html

/-- The references that are written for characters with a meaning of their own. -/
def escapeReferences : List String := ["&amp;", "&lt;", "&gt;", "&quot;", "&#39;"]

/-- The characters with the references for characters read from left to right. An ampersand
that begins none of them stands for itself. -/
def unescapeChars : List Char → List Char
  | '&' :: 'a' :: 'm' :: 'p' :: ';' :: cs => '&' :: unescapeChars cs
  | '&' :: 'l' :: 't' :: ';' :: cs => '<' :: unescapeChars cs
  | '&' :: 'g' :: 't' :: ';' :: cs => '>' :: unescapeChars cs
  | '&' :: 'q' :: 'u' :: 'o' :: 't' :: ';' :: cs => '"' :: unescapeChars cs
  | '&' :: '#' :: '3' :: '9' :: ';' :: cs => '\'' :: unescapeChars cs
  | c :: cs => c :: unescapeChars cs
  | [] => []

/-- The text with the references for characters read from left to right. -/
def unescape (text : String) : String :=
  String.ofList (unescapeChars text.toList)

variable {c : Char} {cs before after : List Char}

theorem toList_escape (s : String) : (escape s).toList = s.toList.flatMap escapeChar := by
  rw [escape, escapeChars_eq_flatMap, String.toList_ofList]

theorem escape_append (s s' : String) : escape (s ++ s') = escape s ++ escape s' := by
  simp only [escape, escapeChars_eq_flatMap, String.toList_append, List.flatMap_append,
    String.ofList_append]

/-! ## Ampersands -/

/-- A character is left as it is, or its reference is written. -/
theorem escapeChar_cases (c : Char) :
    escapeChar c = [c] ∧ c ∉ markupChars ∨ ∃ r ∈ escapeReferences, escapeChar c = r.toList := by
  unfold escapeChar
  split
  case h_6 noAmp noLt noGt noQuot noApos =>
    refine .inl ⟨rfl, ?_⟩
    simp only [markupChars, List.mem_cons, List.not_mem_nil, or_false, not_or]
    exact ⟨noLt, noGt, noAmp, noQuot, noApos⟩
  all_goals exact .inr ⟨_, by decide, rfl⟩

/-- An ampersand that is written for a character is the first one of a reference. -/
theorem escapeReference_of_escapeChar (split : escapeChar c = before ++ '&' :: after) :
    ∃ r ∈ escapeReferences, r.toList = '&' :: after := by
  rcases escapeChar_cases c with ⟨itself, plain⟩ | ⟨r, known, isReference⟩
  · have mem : '&' ∈ [c] := by
      rw [← itself, split]
      exact List.mem_append_right _ List.mem_cons_self
    rw [← List.mem_singleton.mp mem] at plain
    exact absurd (by decide) plain
  · have once : ∀ r ∈ escapeReferences, '&' ∉ r.toList.tail := by decide
    rw [isReference] at split
    cases before with
    | nil => exact ⟨r, known, split⟩
    | cons d before =>
      refine absurd ?_ (once r known)
      rw [split, List.cons_append, List.tail_cons]
      exact List.mem_append_right _ List.mem_cons_self

/-- Every ampersand in escaped text begins a reference. -/
theorem escapeReference_of_ampersand (split : cs.flatMap escapeChar = before ++ '&' :: after) :
    ∃ r ∈ escapeReferences, r.toList <+: '&' :: after := by
  induction cs generalizing before with
  | nil => exact absurd split.symm (List.append_ne_nil_of_right_ne_nil _ (List.cons_ne_nil _ _))
  | cons c cs ih =>
    rw [List.flatMap_cons] at split
    rcases List.append_eq_append_iff.mp split with ⟨between, -, later⟩ | ⟨inside, own, later⟩
    · exact ih later
    · cases inside with
      | nil => exact @ih [] later.symm
      | cons d inside =>
        -- The ampersand is one of those written for the first character.
        obtain ⟨rfl, rest⟩ := List.cons_eq_cons.mp later
        obtain ⟨r, known, same⟩ := escapeReference_of_escapeChar own
        refine ⟨r, known, ?_⟩
        rw [same, rest]
        exact List.prefix_append ('&' :: inside) _

/-! ## Reading back -/

theorem unescapeChars_of_ne (other : c ≠ '&') (cs : List Char) :
    unescapeChars (c :: cs) = c :: unescapeChars cs := by
  rw [unescapeChars]
  all_goals
    intros
    exact other ‹_›

theorem unescapeChars_escapeChar (c : Char) (cs : List Char) :
    unescapeChars (escapeChar c ++ cs) = c :: unescapeChars cs := by
  unfold escapeChar
  split
  case h_6 noAmp _ _ _ _ => exact unescapeChars_of_ne noAmp cs
  all_goals rfl

/-- Reading the references undoes the escaping. -/
theorem unescapeChars_flatMap (cs : List Char) : unescapeChars (cs.flatMap escapeChar) = cs := by
  induction cs with
  | nil => rfl
  | cons c cs ih => rw [List.flatMap_cons, unescapeChars_escapeChar, ih]

theorem unescape_escape (s : String) : unescape (escape s) = s := by
  rw [unescape, toList_escape, unescapeChars_flatMap, String.ofList_toList]

/-- Escaping is one pass that writes each of the five characters with a meaning of their own as
its reference and leaves the others alone. So texts are escaped piece by piece, none of the
characters is left but the ampersands with which the references begin, and reading the
references from left to right gives the text back: different texts are escaped differently. -/
theorem escape_reversible (s : String) :
    escape s = String.ofList (s.toList.flatMap escapeChar) ∧
      (∀ s', escape (s ++ s') = escape s ++ escape s') ∧
      (∀ c ∈ ['<', '>', '"', '\''], c ∉ (escape s).toList) ∧
      (∀ before after, (escape s).toList = before ++ '&' :: after →
        ∃ r ∈ escapeReferences, r.toList <+: '&' :: after) ∧
      unescape (escape s) = s ∧ Function.Injective escape := by
  have reserved : ∀ c ∈ ['<', '>', '"', '\''], c ∈ markupChars ∧ c ≠ '&' := by decide
  refine ⟨congrArg String.ofList (escapeChars_eq_flatMap _), escape_append s, fun c mem => ?_,
    fun before after split => ?_, unescape_escape s,
    Function.LeftInverse.injective unescape_escape⟩
  · exact (tagFree_escape s).not_mem_of_ne (reserved c mem).1 (reserved c mem).2
  · rw [toList_escape] at split
    exact escapeReference_of_ampersand split

/-- References that stand in the text already are escaped once more and read once. -/
theorem escape_reversible_references :
    let s := "a &lt; '<b>'"
    let rest := "amp;lt; &#39;&lt;b&gt;&#39;".toList
    (escape s).toList = 'a' :: ' ' :: '&' :: rest ∧
      (∃ r ∈ escapeReferences, r.toList <+: '&' :: rest) ∧ unescape (escape s) = s := by
  intro s rest
  have escaped : (escape s).toList = ['a', ' '] ++ '&' :: rest := by decide +kernel
  obtain ⟨-, -, -, references, back, -⟩ := escape_reversible s
  exact ⟨escaped, references ['a', ' '] rest escaped, back⟩

end TexMarkup.Html
