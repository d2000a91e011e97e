import TexMarkup.Proofs.Document.Tokens
import TexMarkup.Proofs.Parser.Place

/-!
# Texts with a blank line between them

Two or more newlines between two texts are one token, and the tokens on both sides are
those of the texts. Since no argument list goes on across it, the documents of the texts
are read one after the other.

## Main definitions

* `ParseError.addLines`: an error of a text that stands further down in another one.

## Main results

* `newlines_tokenize`: the tokens of a text hold its newlines.
* `tokenize_separated`: the tokens of two texts with a blank line between them.
* `parseDocument_separated`: the document of two texts with a blank line between them.
-/

namespace TexMarkup

variable {t : Token} {ts : List Token} {s first second separator : String}

/-! ## Tokens -/

theorem Token.WellFormed.newlineCount_eq (h : t.WellFormed) :
    t.newlineCount = t.text.toList.count '\n' := by
  have noNewline {s : String} (wordChars : ∀ c ∈ s.toList, isWordChar c = true) :
      s.toList.count '\n' = 0 :=
    List.count_eq_zero.mpr fun mem => absurd (wordChars _ mem) (by decide)
  cases t with
  | blankLine s => rfl
  | space s => rfl
  | number s => exact (noNewline fun c mem => (Numeral.wordChars h c mem).1).symm
  | word s => exact (noNewline h.2.1).symm
  | _ => decide

theorem newlines_eq_count (wellFormed : ∀ t ∈ ts, t.WellFormed) :
    newlines ts = (concat ts).toList.count '\n' := by
  induction ts with
  | nil => rfl
  | cons t ts ih =>
    rw [newlines_cons, concat_cons, String.toList_append, List.count_append,
      ← (wellFormed t List.mem_cons_self).newlineCount_eq,
      ih fun t' mem => wellFormed t' (List.mem_cons_of_mem _ mem)]

theorem concat_tokenize (noReturn : '\r' ∉ s.toList) : concat (tokenize s) = s := by
  rw [(tokenize_spec s).1, stripCarriageReturns_eq_self noReturn]

/-- The tokens of a text hold its newlines. -/
theorem newlines_tokenize (noReturn : '\r' ∉ s.toList) :
    newlines (tokenize s) = s.toList.count '\n' := by
  rw [newlines_eq_count (tokenize_spec s).2.1, concat_tokenize noReturn]

/-- The text of the last token ends as all texts together. -/
theorem Canonical.getLast?_concat (h : Canonical ts) (last : t ∈ ts.getLast?) :
    (concat ts).toList.getLast? = t.text.toList.getLast? := by
  obtain ⟨before, rfl⟩ := List.getLast?_eq_some_iff.mp last
  have nonempty : t.text.toList ≠ [] := (h.1 t (by simp)).text_ne_nil
  rw [concat_append, concat_cons, concat_nil, String.append_empty, String.toList_append,
    List.getLast?_append_of_ne_nil _ nonempty]

/-- The text of the first token begins as all texts together. -/
theorem Canonical.head?_concat (h : Canonical ts) (head : t ∈ ts.head?) :
    (concat ts).toList.head? = t.text.toList.head? := by
  obtain ⟨after, rfl⟩ := List.head?_eq_some_iff.mp head
  have nonempty : t.text.toList ≠ [] := (h.1 t (by simp)).text_ne_nil
  rw [concat_cons, String.toList_append, List.head?_append_of_ne_nil _ nonempty]

theorem Token.WellFormed.mayPrecede_blankLine (h : t.WellFormed)
    (ends : t.text.toList.getLast? ≠ some '\n') (s : String) : t.MayPrecede (.blankLine s) := by
  cases t with
  | blankLine s' =>
    have last := List.getLast?_eq_some_getLast h.text_ne_nil
    rw [h.2 _ (List.getLast_mem h.text_ne_nil)] at last
    exact absurd last ends
  | space s' => exact ends
  | _ => trivial

theorem Token.WellFormed.blankLine_mayPrecede (h : t.WellFormed)
    (begins : t.text.toList.head? ≠ some '\n') (s : String) : (Token.blankLine s).MayPrecede t := by
  cases t with
  | blankLine s' =>
    obtain ⟨c, cs, same⟩ := List.exists_cons_of_ne_nil h.text_ne_nil
    have newline : c = '\n' := h.2 c (same ▸ List.mem_cons_self)
    rw [same, newline] at begins
    exact absurd rfl begins
  | space s' => exact begins
  | _ => trivial

/-- The tokens of two texts with a blank line between them. -/
theorem tokenize_separated (noReturn : '\r' ∉ first.toList) (noReturn' : '\r' ∉ second.toList)
    (ends : first.toList.getLast? ≠ some '\n') (begins : second.toList.head? ≠ some '\n')
    (blank : (Token.blankLine separator).WellFormed) :
    tokenize (first ++ separator ++ second) =
      tokenize first ++ .blankLine separator :: tokenize second := by
  have canonical := (tokenize_spec first).2
  have canonical' := (tokenize_spec second).2
  have joined : concat (tokenize first ++ .blankLine separator :: tokenize second) =
      first ++ separator ++ second := by
    rw [concat_append, concat_cons, concat_tokenize noReturn, concat_tokenize noReturn',
      String.append_assoc]
    rfl
  have blankFirst : Canonical ([.blankLine separator] ++ tokenize second) := by
    refine canonical_append.mpr ⟨⟨by simpa using blank, .singleton _⟩, canonical', ?_⟩
    rintro _ ⟨⟩ t head
    refine (canonical'.1 t (List.mem_of_mem_head? head)).blankLine_mayPrecede ?_ separator
    rwa [← canonical'.head?_concat head, concat_tokenize noReturn']
  rw [← joined]
  refine tokenize_concat (canonical_append.mpr ⟨canonical, blankFirst, ?_⟩)
  rintro t last _ ⟨⟩
  refine (canonical.1 t (List.mem_of_mem_getLast? last)).mayPrecede_blankLine ?_ separator
  rwa [← canonical.getLast?_concat last, concat_tokenize noReturn]

/-! ## Documents -/

/-- The error with its line moved further down. -/
def ParseError.addLines (lines : Nat) : ParseError → ParseError
  | .missingCommandName line found => .missingCommandName (line + lines) found
  | .nestingTooDeep line limit => .nestingTooDeep (line + lines) limit

/-- A parser reports its own limit. -/
theorem Parser.limit_of_nestingTooDeep {p q : Parser} {line limit : Nat}
    (read : p.paragraphs ts = .error (.nestingTooDeep line limit) q) : limit = p.maxDepth := by
  let here : Place := ⟨p.maxDepth, 0, 0, []⟩
  have same : here.parser p = p := by simp [Place.parser, here]
  have moved := here.paragraphs (p := p) rfl ts
  rw [same, read] at moved
  exact (ParseError.nestingTooDeep.inj (EStateM.Result.error.inj moved).1).2

/-- The document of two texts with a blank line between them: the second one is read
further down, and not at all if the first one cannot be read. -/
theorem parseDocument_separated (noReturn : '\r' ∉ first.toList) (noReturn' : '\r' ∉ second.toList)
    (ends : first.toList.getLast? ≠ some '\n') (begins : second.toList.head? ≠ some '\n')
    (blank : (Token.blankLine separator).WellFormed) (maxDepth : Nat) :
    parseDocument (first ++ separator ++ second) maxDepth =
      match parseDocument first maxDepth, parseDocument second maxDepth with
      | .error e, _ => .error e
      | .ok _, .error e => .error (e.addLines ((first ++ separator).toList.count '\n'))
      | .ok document, .ok document' => .ok ⟨document.paragraphs ++ document'.paragraphs⟩ := by
  let fresh := Parser.mk maxDepth 0 1 []
  have kept := fresh.paragraphs_keeps (tokenize first)
  simp only [parseDocument, Parser.document_eq_map,
    tokenize_separated noReturn noReturn' ends begins blank, Parser.paragraphs_append_blankLine]
  cases read : fresh.paragraphs (tokenize first) with
  | error e q => rfl
  | ok paragraphs q =>
    rw [read] at kept
    obtain ⟨limit, depth, line⟩ := kept
    -- Between the texts no command is open, and all lines so far have been counted.
    let place : Place :=
      ⟨maxDepth, 0, (first ++ separator).toList.count '\n', q.implicitCloses⟩
    have lines : q.line + (Token.blankLine separator).newlineCount = place.lines + 1 := by
      rw [line, newlines_tokenize noReturn, blank.newlineCount_eq]
      simp only [place, fresh, Token.text, String.toList_append, List.count_append]
      omega
    have there : q.advance (.blankLine separator) = place.parser fresh := by
      simp only [Parser.advance, lines, limit, depth, Place.parser, place, fresh, List.map_nil,
        List.append_nil, Nat.zero_add]
    simp only [there, place.paragraphs (p := fresh) rfl]
    cases read' : fresh.paragraphs (tokenize second) with
    | ok paragraphs' q' => rfl
    | error e q' =>
      have moved : place.error e = e.addLines place.lines := by
        cases e with
        | missingCommandName line found =>
          simp only [Place.error, ParseError.addLines, Nat.add_comm]
        | nestingTooDeep line limit =>
          rw [Parser.limit_of_nestingTooDeep read']
          simp only [Place.error, ParseError.addLines, Nat.add_comm, place, fresh]
      exact congrArg Except.error moved

end TexMarkup
