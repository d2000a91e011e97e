import Mathlib.Data.List.DropRight
import Mathlib.Data.List.TakeWhile
import TexMarkup.Proofs.Token.Canonical

/-!
# Runs of blanks

What becomes of the blanks of a text that is written and rendered: those at its edges
are dropped, and every run inside becomes one space. On canonical tokens this is seen
token by token.

## Main definitions

* `squeeze`, `collapse`: one space for every run of blanks, and none at the edges.
* `Token.shown`: what a token contributes.
* `trimTokens`: tokens without runs of blanks at either edge.

## Main results

* `Token.WellFormed.isBlank_eq`: all characters of a token are blanks, or none is.
* `collapse_concat`: the text of canonical tokens with its blanks collapsed.
-/

namespace TexMarkup

/-- The characters with every run of blanks replaced by one space: of two neighbouring
blanks the first one is dropped. -/
def squeeze : List Char → List Char
  | [] => []
  | c :: cs =>
    if isBlank c then
      if cs.head?.any isBlank then squeeze cs else ' ' :: squeeze cs
    else c :: squeeze cs

/-- The text without the blanks at its edges and with every run of blanks inside
replaced by one space. -/
def collapse (s : String) : String :=
  String.ofList (squeeze (trim s).toList)

/-- What a token contributes where blanks are collapsed. -/
def Token.shown (t : Token) : String :=
  if t.isBlankRun then " " else t.text

/-- The tokens without the runs of blanks at either edge. -/
def trimTokens (ts : List Token) : List Token :=
  ((ts.dropWhile Token.isBlankRun).reverse.dropWhile Token.isBlankRun).reverse

variable {t : Token} {ts : List Token} {run rest cs : List Char}

/-! ## Runs of characters -/

theorem squeeze_append_of_not_isBlank (noBlank : ∀ c ∈ run, isBlank c = false) :
    squeeze (run ++ rest) = run ++ squeeze rest := by
  induction run with
  | nil => rfl
  | cons c run ih =>
    rw [List.cons_append, squeeze, if_neg (by simp [noBlank c List.mem_cons_self]),
      ih fun c' mem => noBlank c' (List.mem_cons_of_mem _ mem), List.cons_append]

/-- A run of blanks up to something else becomes one space. -/
theorem squeeze_append_of_isBlank (nonempty : run ≠ []) (blank : ∀ c ∈ run, isBlank c = true)
    (ends : rest.head?.any isBlank = false) : squeeze (run ++ rest) = ' ' :: squeeze rest := by
  induction run with
  | nil => exact absurd rfl nonempty
  | cons c run ih =>
    rw [List.cons_append, squeeze, if_pos (blank c List.mem_cons_self)]
    cases run with
    | nil => rw [List.nil_append, if_neg (by simp [ends])]
    | cons c' run =>
      have blank' : ∀ c ∈ c' :: run, isBlank c = true :=
        fun c mem => blank c (List.mem_cons_of_mem _ mem)
      rw [if_pos (by simp [blank' c' List.mem_cons_self]), ih (List.cons_ne_nil _ _) blank']

theorem all_isBlank_squeeze (cs : List Char) : (squeeze cs).all isBlank = cs.all isBlank := by
  induction cs with
  | nil => rfl
  | cons c cs ih =>
    rw [squeeze, List.all_cons]
    cases blank : isBlank c with
    | false => simp [blank]
    | true =>
      have space : isBlank ' ' = true := by decide
      rw [if_pos rfl]
      split <;> simp [ih, space]

/-- A trimmed text holds something else than blanks, or nothing. -/
theorem trim_eq_empty_of_isAllBlank {s : String} (blank : isAllBlank (trim s) = true) :
    trim s = "" := by
  rw [isAllBlank, List.all_eq_true] at blank
  rw [trim, String.toList_ofList, dropBlankEnd] at blank
  rw [trim, dropBlankEnd, String.ofList_eq_empty_iff, List.reverse_eq_nil_iff]
  cases kept : (s.toList.dropWhile isBlank).reverse.dropWhile isBlank with
  | nil => rfl
  | cons c cs =>
    have notBlank := head?_dropWhile_eq_false isBlank (s.toList.dropWhile isBlank).reverse c
      (by rw [kept]; rfl)
    rw [kept] at blank
    exact absurd (blank c (by simp)) (by simp [notBlank])

/-- A trimmed text has nothing to trim. -/
theorem trim_trim (s : String) : trim (trim s) = trim s := by
  -- What is left of the end begins as before, and there is no blank in front of that.
  have front : (dropBlankEnd (s.toList.dropWhile isBlank)).dropWhile isBlank =
      dropBlankEnd (s.toList.dropWhile isBlank) := by
    have part : dropBlankEnd (s.toList.dropWhile isBlank) <+: s.toList.dropWhile isBlank := by
      rw [dropBlankEnd, ← List.reverse_suffix, List.reverse_reverse]
      exact List.dropWhile_suffix _
    cases kept : dropBlankEnd (s.toList.dropWhile isBlank) with
    | nil => rfl
    | cons c cs =>
      rw [kept] at part
      obtain ⟨rest, split⟩ := part
      have notBlank := head?_dropWhile_eq_false isBlank s.toList c (by rw [← split]; rfl)
      exact List.dropWhile_cons_of_neg (by simp [notBlank])
  rw [trim, trim, String.toList_ofList, front]
  simp only [dropBlankEnd, List.reverse_reverse, List.dropWhile_idempotent]

theorem isAllBlank_collapse {s : String} (blank : isAllBlank (collapse s) = true) :
    collapse s = "" := by
  rw [isAllBlank, collapse, String.toList_ofList, all_isBlank_squeeze] at blank
  rw [collapse, trim_eq_empty_of_isAllBlank blank]
  rfl

/-! ## Runs of tokens -/

/-- All characters of a token are blanks, or none is. -/
theorem Token.WellFormed.isBlank_eq (h : t.WellFormed) {c : Char} (mem : c ∈ t.text.toList) :
    isBlank c = t.isBlankRun := by
  have ofWord {cs : List Char} (wordChars : ∀ c ∈ cs, isWordChar c = true) (mem : c ∈ cs) :
      isBlank c = false :=
    isBlank_eq_false_of_isWordChar (wordChars c mem)
  cases t with
  | blankLine s =>
    rw [h.2 c mem]
    rfl
  | space s => exact (h.2.1 c mem).1
  | number s => exact ofWord (fun c mem => (Numeral.wordChars h c mem).1) mem
  | word s => exact ofWord h.2.1 mem
  | _ =>
    obtain rfl := List.mem_singleton.mp mem
    decide

theorem Token.exists_eq_space (blank : t.isBlankRun = true) (noBlankLine : t.isBlankLine = false) :
    ∃ s, t = .space s := by
  cases t with
  | space s => exact ⟨s, rfl⟩
  | blankLine s => cases noBlankLine
  | _ => cases blank

/-- Dropping blanks from the front of pieces that are blank or not as a whole. -/
theorem dropWhile_isBlank_flatMap {f : Token → List Char}
    (pieces : ∀ t ∈ ts, f t ≠ [] ∧ ∀ c ∈ f t, isBlank c = t.isBlankRun) :
    (ts.flatMap f).dropWhile isBlank = (ts.dropWhile Token.isBlankRun).flatMap f := by
  induction ts with
  | nil => rfl
  | cons t ts ih =>
    obtain ⟨nonempty, same⟩ := pieces t List.mem_cons_self
    rw [List.flatMap_cons, List.dropWhile_cons]
    cases blank : t.isBlankRun with
    | true =>
      have dropped : (f t).dropWhile isBlank = [] :=
        List.dropWhile_eq_nil_iff.mpr fun c mem => (same c mem).trans blank
      rw [if_pos rfl, List.dropWhile_append, dropped, List.isEmpty_nil, if_pos rfl,
        ih fun t' mem => pieces t' (List.mem_cons_of_mem _ mem)]
    | false =>
      obtain ⟨c, cs, split⟩ := List.exists_cons_of_ne_nil nonempty
      have kept : isBlank c = false := (same c (split ▸ List.mem_cons_self)).trans blank
      rw [if_neg Bool.false_ne_true, List.flatMap_cons, split, List.cons_append,
        List.dropWhile_cons_of_neg (by simp [kept])]

theorem dropBlankEnd_flatMap {f : Token → List Char}
    (pieces : ∀ t ∈ ts, f t ≠ [] ∧ ∀ c ∈ f t, isBlank c = t.isBlankRun) :
    dropBlankEnd (ts.flatMap f) = (ts.reverse.dropWhile Token.isBlankRun).reverse.flatMap f := by
  have reversed (ts : List Token) :
      (ts.flatMap f).reverse = ts.reverse.flatMap fun t => (f t).reverse :=
    List.reverse_flatMap
  have pieces' : ∀ t ∈ ts.reverse, (f t).reverse ≠ [] ∧ ∀ c ∈ (f t).reverse,
      isBlank c = t.isBlankRun := by
    simpa only [List.mem_reverse, ne_eq, List.reverse_eq_nil_iff] using pieces
  have dropped := dropWhile_isBlank_flatMap pieces'
  rw [dropBlankEnd, reversed, dropped, ← List.reverse_inj, List.reverse_reverse, reversed,
    List.reverse_reverse]

theorem trimTokens_isInfix (ts : List Token) : trimTokens ts <:+: ts := by
  have front := List.dropWhile_suffix (l := ts) Token.isBlankRun
  have back := List.dropWhile_suffix (l := (ts.dropWhile Token.isBlankRun).reverse) Token.isBlankRun
  have trimmed : trimTokens ts <+: ts.dropWhile Token.isBlankRun := by
    rw [trimTokens, ← List.reverse_suffix, List.reverse_reverse]
    exact back
  exact trimmed.isInfix.trans front.isInfix

/-- The text of tokens is trimmed token by token. -/
theorem trim_concat (wellFormed : ∀ t ∈ ts, t.WellFormed) :
    trim (concat ts) = concat (trimTokens ts) := by
  have pieces : ∀ t ∈ ts, t.text.toList ≠ [] ∧ ∀ c ∈ t.text.toList, isBlank c = t.isBlankRun :=
    fun t mem => ⟨(wellFormed t mem).text_ne_nil, fun c => (wellFormed t mem).isBlank_eq⟩
  have kept : ts.dropWhile Token.isBlankRun ⊆ ts := (List.dropWhile_sublist _).subset
  rw [← String.toList_inj, trim, String.toList_ofList, concat_toList,
    dropWhile_isBlank_flatMap pieces, dropBlankEnd_flatMap fun t mem => pieces t (kept mem),
    concat_toList]
  rfl

/-- In a canonical list runs of blanks that are no blank lines have something else
between them, so each of them becomes one space. -/
theorem squeeze_concat (canonical : Canonical ts) (noBlankLine : ∀ t ∈ ts, t.isBlankLine = false) :
    squeeze (concat ts).toList = ts.flatMap fun t => t.shown.toList := by
  induction ts with
  | nil => rfl
  | cons t ts ih =>
    have wellFormed := canonical.1 t List.mem_cons_self
    have later := ih canonical.tail fun t' mem => noBlankLine t' (List.mem_cons_of_mem _ mem)
    rw [concat_toList] at later ⊢
    rw [List.flatMap_cons, List.flatMap_cons, ← later, Token.shown]
    cases blank : t.isBlankRun with
    | false =>
      exact squeeze_append_of_not_isBlank fun c mem => (wellFormed.isBlank_eq mem).trans blank
    | true =>
      rw [if_pos rfl]
      refine squeeze_append_of_isBlank wellFormed.text_ne_nil
        (fun c mem => (wellFormed.isBlank_eq mem).trans blank) ?_
      cases ts with
      | nil => rfl
      | cons next ts =>
        have wellFormed' := canonical.1 next (by simp)
        have neighbours := canonical.mayPrecede_head next rfl
        -- Two runs of blanks would have been one token.
        have notBlank : next.isBlankRun = false := by
          cases blank' : next.isBlankRun with
          | false => rfl
          | true =>
            obtain ⟨s, rfl⟩ := Token.exists_eq_space blank (noBlankLine t List.mem_cons_self)
            obtain ⟨s', rfl⟩ := Token.exists_eq_space blank' (noBlankLine next (by simp))
            exact neighbours.elim
        obtain ⟨c, cs, split⟩ := List.exists_cons_of_ne_nil wellFormed'.text_ne_nil
        rw [List.flatMap_cons, split, List.cons_append, List.head?_cons, Option.any_some]
        exact (wellFormed'.isBlank_eq (split ▸ List.mem_cons_self)).trans notBlank

/-- The text of canonical tokens with its blanks collapsed. -/
theorem collapse_concat (canonical : Canonical ts) (noBlankLine : ∀ t ∈ ts, t.isBlankLine = false) :
    collapse (concat ts) = String.join ((trimTokens ts).map Token.shown) := by
  have part := trimTokens_isInfix ts
  have canonical' : Canonical (trimTokens ts) :=
    ⟨fun t mem => canonical.1 t (part.subset mem), List.IsChain.infix canonical.2 part⟩
  rw [← String.toList_inj, collapse, String.toList_ofList, trim_concat canonical.1,
    squeeze_concat canonical' fun t mem => noBlankLine t (part.subset mem), String.toList_join,
    List.flatMap_map]

end TexMarkup
