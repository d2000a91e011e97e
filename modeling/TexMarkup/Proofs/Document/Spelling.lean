import TexMarkup.Proofs.Document.Tokens
import TexMarkup.Proofs.Parser.Refinement
import TexMarkup.Render

/-!
# The spelling of blanks

A run of blanks can be spelled in many ways, and so can a blank line. Respelling them keeps
the tokens of a text apart, and after that only the lines of the source depend on how they
are spelled: documents, the lists closed implicitly, renderings and, apart from their lines,
errors do not.

## Main definitions

* `Token.respelled`, `respell`: blanks in their shortest spelling.
* `Machine.unplaced`: the state of the stack machine without its lines.
* `Reading.unplaced`: what is read of a document, without lines.

## Main results

* `Canonical.respelled`: respelled tokens are those of their text.
* `Machine.run_respelled`: a run, up to lines.
* `respell_transparent`: tokens, documents and renderings of a respelled text.
-/

namespace TexMarkup

/-- The token with its blanks in their shortest spelling. -/
def Token.respelled : Token → Token
  | .blankLine _ => .blankLine "\n\n"
  | .space _ => .space " "
  | t => t

/-- The text with its blanks in their shortest spelling: one space for a run of blanks, two
newlines for a blank line. -/
def respell (text : String) : String :=
  concat ((tokenize text).map Token.respelled)

variable {t next : Token} {ts : List Token}

/-! ## Tokens -/

/-- Only blanks are respelled. -/
theorem Token.respelled_of_isArgumentText (isText : t.isArgumentText = true) : t.respelled = t := by
  cases t with
  | blankLine s => cases isText
  | space s => cases isText
  | _ => rfl

theorem Token.respelled_eq_leftBrace (h : t.respelled = .leftBrace) : t = .leftBrace := by
  cases t with
  | leftBrace => rfl
  | _ => exact nomatch h

theorem Token.eq_word_of_respelled {name : String} (h : t.respelled = .word name) :
    t = .word name := by
  cases t with
  | word s => exact h
  | _ => exact nomatch h

theorem Token.exists_eq_space_of_respelled {s : String} (h : t.respelled = .space s) :
    ∃ s', t = .space s' := by
  cases t with
  | space s' => exact ⟨s', rfl⟩
  | _ => exact nomatch h

/-- A blank is well formed in the spelling that it is given. -/
theorem Token.WellFormed.respelled (h : t.WellFormed) : t.respelled.WellFormed := by
  cases t with
  | blankLine s => exact of_decide_eq_true rfl
  | space s => exact of_decide_eq_true rfl
  | _ => exact h

/-- Neither spelling begins or ends as the other one does, so respelled neighbours stay apart. -/
theorem Token.MayPrecede.respelled (h : t.MayPrecede next) :
    t.respelled.MayPrecede next.respelled := by
  have like : next.respelled.isTextLike = next.isTextLike := by cases next <;> rfl
  cases t with
  | blankLine s =>
    cases next with
    | blankLine s' => exact h
    | space s' => exact of_decide_eq_true rfl
    | _ => trivial
  | space s =>
    cases next with
    | blankLine s' => exact of_decide_eq_true rfl
    | space s' => exact h
    | _ => trivial
  | number s => exact like.trans h
  | word s => exact like.trans h
  | _ => trivial

/-- Respelled tokens are those of their text. -/
theorem Canonical.respelled (h : Canonical ts) : Canonical (ts.map Token.respelled) := by
  refine ⟨?_, ?_⟩
  · rw [List.forall_mem_map]
    exact fun t mem => (h.1 t mem).respelled
  · rw [List.isChain_map]
    exact h.2.imp fun _ _ => Token.MayPrecede.respelled

/-- Respelling makes no brace where there was none. -/
theorem map_respelled_ne_leftBrace (noBrace : ∀ rest, ts ≠ .leftBrace :: rest)
    (rest : List Token) : ts.map Token.respelled ≠ .leftBrace :: rest := by
  intro mapped
  obtain ⟨t, ts', rfl, isBrace, -⟩ := List.map_eq_cons_iff.mp mapped
  exact noBrace ts' (by rw [Token.respelled_eq_leftBrace isBrace])

/-- Nor does it make a space of anything else. -/
theorem map_respelled_ne_space (noSpace : ∀ s rest, ts ≠ .space s :: rest)
    (s : String) (rest : List Token) : ts.map Token.respelled ≠ .space s :: rest := by
  intro mapped
  obtain ⟨t, ts', rfl, isSpace, -⟩ := List.map_eq_cons_iff.mp mapped
  obtain ⟨s', rfl⟩ := Token.exists_eq_space_of_respelled isSpace
  exact noSpace s' ts' rfl

/-- Nor does it make a word. -/
theorem map_respelled_ne_word (noName : ∀ name rest, ts ≠ .word name :: rest)
    (name : String) (rest : List Token) : ts.map Token.respelled ≠ .word name :: rest := by
  intro mapped
  obtain ⟨t, ts', rfl, isWord, -⟩ := List.map_eq_cons_iff.mp mapped
  exact noName name ts' (by rw [Token.eq_word_of_respelled isWord])

/-- A respelled text is lexed to the respelled tokens. -/
theorem tokenize_respell (text : String) :
    tokenize (respell text) = (tokenize text).map Token.respelled :=
  tokenize_concat (tokenize_spec text).2.respelled

/-! ## Without lines -/

/-- The error without its line. -/
def ParseError.unplaced : ParseError → ParseError
  | .missingCommandName _ found => .missingCommandName 0 found
  | .nestingTooDeep _ limit => .nestingTooDeep 0 limit

/-- What is read of a document, without lines: its paragraphs and the commands whose lists
were closed implicitly, or the error. -/
def Reading.unplaced : Reading Document → Except ParseError (Document × List String)
  | .ok document p => .ok (document, p.implicitCloses.map ImplicitClose.command)
  | .error e _ => .error e.unplaced

namespace Machine

/-- The machine without its lines. -/
def unplaced (m : Machine) : Machine :=
  { m with
    line := 0
    closes := m.closes.map fun close => { close with line := 0 }
    stack := m.stack.map fun list => { list with line := 0 } }

/-- The result of a run, without lines. -/
def unplacedResult (result : Except ParseError Machine) : Except ParseError Machine :=
  (result.map unplaced).mapError ParseError.unplaced

variable {m m' : Machine}

@[simp] theorem unplaced_maxDepth (m : Machine) : m.unplaced.maxDepth = m.maxDepth := rfl

@[simp] theorem unplaced_stack_length (m : Machine) :
    m.unplaced.stack.length = m.stack.length :=
  List.length_map _

@[simp] theorem unplaced_advance (m : Machine) (t : Token) : (m.advance t).unplaced = m.unplaced :=
  rfl

@[simp] theorem unplaced_push (m : Machine) (list : OpenList) :
    (m.push list).unplaced = m.unplaced.push { list with line := 0 } := rfl

/-- Nodes are added without regard to lines. -/
@[simp] theorem unplaced_append (m : Machine) (node : Node) :
    (m.append node).unplaced = m.unplaced.append node := by
  obtain ⟨_, _, _, _, _, stack⟩ := m
  cases stack <;> rfl

@[simp] theorem unplaced_close (m : Machine) : m.close.unplaced = m.unplaced.close := by
  obtain ⟨_, _, _, _, _, stack⟩ := m
  cases stack with
  | nil => rfl
  | cons top below => exact unplaced_append _ _

/-- Lists are closed implicitly without regard to lines, apart from the line that is noted. -/
theorem unplaced_closeImplicitly (m : Machine) :
    m.closeImplicitly.unplaced = m.unplaced.closeImplicitly := by
  obtain ⟨_, _, closes, _, _, stack⟩ := m
  cases stack with
  | nil => rfl
  | cons top below =>
    refine (unplaced_append _ _).trans ?_
    simp [unplaced, closeImplicitly]

@[simp] theorem unplaced_closeAll (m : Machine) : m.closeAll.unplaced = m.unplaced.closeAll := by
  rw [closeAll, closeAll, unplaced_stack_length]
  exact Function.Semiconj.iterate_right unplaced_closeImplicitly _ m

@[simp] theorem unplaced_endParagraph (m : Machine) :
    m.endParagraph.unplaced = m.unplaced.endParagraph := by
  have closed := unplaced_closeAll m
  rw [endParagraph, endParagraph, ← closed]
  rfl

/-- The error of a missing name says of blanks only that they are blanks. -/
theorem unplaced_missingName (m m' : Machine) (ts : List Token) :
    (m'.missingName (ts.map Token.respelled)).unplaced = (m.missingName ts).unplaced := by
  rcases ts with _ | ⟨t, ts⟩
  · rfl
  · cases t <;> rfl

/-- Whether a command lies too deep does not depend on lines. -/
theorem tooDeep_iff_of_unplaced_eq (same : m'.unplaced = m.unplaced) :
    m'.maxDepth < m'.stack.length + 1 ↔ m.maxDepth < m.stack.length + 1 := by
  rw [← unplaced_maxDepth m', ← unplaced_stack_length m', same, unplaced_maxDepth,
    unplaced_stack_length]

/-- The runs of two machines that differ in nothing but lines, on tokens that differ in nothing
but the spelling of blanks. -/
theorem run_respelled (ts : List Token) (same : m'.unplaced = m.unplaced) :
    unplacedResult (m'.run (ts.map Token.respelled)) = unplacedResult (m.run ts) := by
  -- A step keeps the two machines alike, and whether it is taken does not depend on lines.
  fun_induction Machine.run m ts generalizing m' with
  | case1 m =>
    show Except.ok m'.endParagraph.unplaced = Except.ok m.endParagraph.unplaced
    rw [unplaced_endParagraph, unplaced_endParagraph, same]
  | case2 m s ts ih =>
    show unplacedResult (m'.run (.blankLine _ :: ts.map Token.respelled)) = _
    rw [run]
    refine ih ?_
    rw [unplaced_advance, unplaced_advance, unplaced_endParagraph, unplaced_endParagraph, same]
  | case3 m name ts deep =>
    have deep' := (tooDeep_iff_of_unplaced_eq same).mpr deep
    show unplacedResult (m'.run (.backslash :: .word name :: ts.map Token.respelled)) = _
    rw [run_of_tooDeep deep']
    show Except.error (ParseError.nestingTooDeep 0 m'.unplaced.maxDepth) = _
    rw [same]
    rfl
  | case4 m name fits ts ih =>
    have fits' := mt (tooDeep_iff_of_unplaced_eq same).mp fits
    show unplacedResult (m'.run (.backslash :: .word name :: .leftBrace :: ts.map _)) = _
    rw [run_leftBrace fits']
    refine ih ?_
    rw [unplaced_push, unplaced_push, same]
  | case5 m name fits s ts ih =>
    have fits' := mt (tooDeep_iff_of_unplaced_eq same).mp fits
    show unplacedResult (m'.run (.backslash :: .word name :: .space _ :: ts.map _)) = _
    rw [run_delimited fits']
    refine ih ?_
    rw [unplaced_advance, unplaced_advance, unplaced_append, unplaced_append, same]
  | case6 m name fits ts noBrace noSpace ih =>
    have fits' := mt (tooDeep_iff_of_unplaced_eq same).mp fits
    show unplacedResult (m'.run (.backslash :: .word name :: ts.map Token.respelled)) = _
    rw [run_bare fits' (map_respelled_ne_leftBrace noBrace) (map_respelled_ne_space noSpace)]
    refine ih ?_
    rw [unplaced_append, unplaced_append, same]
  | case7 m ts noName =>
    show unplacedResult (m'.run (.backslash :: ts.map Token.respelled)) = _
    rw [run_of_name_missing (map_respelled_ne_word noName)]
    exact congrArg Except.error (unplaced_missingName m m' ts)
  | case8 m s ts ih =>
    show unplacedResult (m'.run (.space _ :: ts.map Token.respelled)) = _
    rw [run]
    refine ih ?_
    rw [unplaced_advance, unplaced_advance, unplaced_append, unplaced_append, same]
  | case9 m ts ih =>
    show unplacedResult (m'.run (.rightBrace :: ts.map Token.respelled)) = _
    rw [run]
    refine ih ?_
    rw [unplaced_close, unplaced_close, same]
  | case10 m t ts noBlankLine _ noBackslash noSpace noBrace ih =>
    have isText : t.isArgumentText = true :=
      Token.isArgumentText_of_ne noBlankLine noBackslash noSpace noBrace
    rw [List.map_cons, Token.respelled_of_isArgumentText isText, run_text isText]
    refine ih ?_
    rw [unplaced_append, unplaced_append, same]

end Machine

/-! ## Texts -/

/-- What a fresh parser reads of respelled tokens, without lines. -/
theorem Parser.document_respelled (limit : Nat) (ts : List Token) :
    Reading.unplaced (Parser.document (Parser.mk limit 0 1 []) (ts.map Token.respelled)) =
      Reading.unplaced (Parser.document (Parser.mk limit 0 1 []) ts) := by
  have seen (ts : List Token) :
      Reading.unplaced (Parser.document (Parser.mk limit 0 1 []) ts) =
        (Machine.unplacedResult (Machine.run { maxDepth := limit } ts)).map fun m =>
          (⟨m.paragraphs⟩, m.closes.map ImplicitClose.command) := by
    have ran := Parser.document_run limit ts
    cases read : Parser.document (Parser.mk limit 0 1 []) ts with
    | error e q =>
      rw [read] at ran
      rw [ran]
      rfl
    | ok document q =>
      rw [read] at ran
      rw [ran]
      simp [Reading.unplaced, Machine.unplacedResult, Machine.unplaced, Except.map, Except.mapError]
  rw [seen, seen, Machine.run_respelled ts rfl]

/-- The document of a respelled text, or its error without the line. -/
theorem parseDocument_respell (text : String) (limit : Nat) :
    (parseDocument (respell text) limit).mapError ParseError.unplaced =
      (parseDocument text limit).mapError ParseError.unplaced := by
  have seen (result : Reading Document) :
      result.toExcept.mapError ParseError.unplaced = result.unplaced.map Prod.fst := by
    cases result <;> rfl
  rw [parseDocument, parseDocument, seen, seen, tokenize_respell, Parser.document_respelled]

/-- The shortest spelling of the blanks in a text keeps the other tokens as they are. Under any
limit the document is the same and the lists of the same commands are closed implicitly, or the
error is the same apart from its line; and the text renders to the same with the same warnings,
in any setting. -/
theorem respell_transparent [AddressReader] [SpecialFunctions] (text : String) :
    tokenize (respell text) = (tokenize text).map Token.respelled ∧
      (∀ limit,
        Reading.unplaced (Parser.document (Parser.mk limit 0 1 []) (tokenize (respell text))) =
          Reading.unplaced (Parser.document (Parser.mk limit 0 1 []) (tokenize text))) ∧
      ∀ setting, (tryRender setting (respell text)).mapError ParseError.unplaced =
        (tryRender setting text).mapError ParseError.unplaced := by
  refine ⟨tokenize_respell text, fun limit => ?_, fun setting => ?_⟩
  · rw [tokenize_respell, Parser.document_respelled]
  · -- Rendering sees nothing of a text but its document.
    have rendered (result : Except ParseError Document) :
        (result.map (renderDocument setting)).mapError ParseError.unplaced =
          (result.mapError ParseError.unplaced).map (renderDocument setting) := by
      cases result <;> rfl
    rw [tryRender, tryRender, rendered, rendered, parseDocument_respell]

end TexMarkup
