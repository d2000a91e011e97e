import TexMarkup.Proofs.Document.Separator
import TexMarkup.Proofs.Evaluation.Result
import TexMarkup.Proofs.Html.Escape
import TexMarkup.Proofs.Text.Collapse
import TexMarkup.Render

/-!
# Writing plain text

Three characters have a meaning of their own wherever they stand. With these written by
commands, every text without blank lines can be written, and it is rendered as it is,
but for the collapse of its blanks.

## Main definitions

* `encode`: a text with every character of a meaning of its own written by a command.
* `Token.encoded`, `Token.plainNode`: what becomes of a token, and the node it is read as.

## Main results

* `tokenize_encode`, `parseDocument_encode`: the tokens and the document of what is
  written.
* `renderNodes_plain`: the rendering of its nodes, which adds nothing to the session.
* `tryRender_encode`: what is written is rendered as the text.
-/

namespace TexMarkup

/-! ## Writing -/

/-- The name of the command that writes a character. -/
def commandFor? : Char → Option String
  | '\\' => some "backslash"
  | '\x7b' => some "left-brace"
  | '\x7d' => some "right-brace"
  | _ => none

/-- A character in a form in which it stands for itself. -/
def encodeChar (c : Char) : List Char :=
  match commandFor? c with
  | some name => ("\\" ++ name ++ "\x7b\x7d").toList
  | none => [c]

/-- A text in a form in which it stands for itself. -/
def encode (s : String) : String :=
  String.ofList (s.toList.flatMap encodeChar)

namespace Token

/-- The name of the command that writes a token. -/
def commandName? : Token → Option String
  | backslash => some "backslash"
  | leftBrace => some "left-brace"
  | rightBrace => some "right-brace"
  | _ => none

/-- The tokens by which a token is written. -/
def encoded (t : Token) : List Token :=
  match t.commandName? with
  | some name => [backslash, word name, leftBrace, rightBrace]
  | none => [t]

/-- The node as which a token that has been written is read. -/
def plainNode (t : Token) : Node :=
  match t.commandName? with
  | some name => .command name []
  | none => if t.isBlankRun then .space else .text t.text

end Token

variable {t next : Token} {ts : List Token} {s : String}

theorem Token.commandName?_cases (t : Token) :
    (∃ name, t.commandName? = some name ∧ WordText name.toList) ∨
      t.commandName? = none ∧ t ≠ .backslash ∧ t ≠ .leftBrace ∧ t ≠ .rightBrace := by
  cases t with
  | backslash => exact .inl ⟨"backslash", rfl, by decide⟩
  | leftBrace => exact .inl ⟨"left-brace", rfl, by decide⟩
  | rightBrace => exact .inl ⟨"right-brace", rfl, by decide⟩
  | _ => exact .inr ⟨rfl, nofun, nofun, nofun⟩

theorem encodeChar_of_ne {c : Char} (noBackslash : c ≠ '\\') (noOpening : c ≠ '\x7b')
    (noClosing : c ≠ '\x7d') : encodeChar c = [c] := by
  have none : commandFor? c = none := by
    unfold commandFor?
    split
    · exact absurd rfl noBackslash
    · exact absurd rfl noOpening
    · exact absurd rfl noClosing
    · rfl
  rw [encodeChar, none]

/-- Encoding is done token by token. -/
theorem Token.WellFormed.concat_encoded (h : t.WellFormed) :
    (concat t.encoded).toList = t.text.toList.flatMap encodeChar := by
  -- The three characters are neither blanks nor parts of words, so they are tokens alone.
  have ofWord {c : Char} (wordChar : isWordChar c = true) : encodeChar c = [c] := by
    apply encodeChar_of_ne <;> rintro rfl <;> exact absurd wordChar (by decide)
  have ofBlank {c : Char} (blank : isBlank c = true) : encodeChar c = [c] := by
    apply encodeChar_of_ne <;> rintro rfl <;> exact absurd blank (by decide)
  have kept (t : Token) (plain : ∀ c ∈ t.text.toList, encodeChar c = [c]) :
      (concat [t]).toList = t.text.toList.flatMap encodeChar := by
    rw [List.flatMap_congr plain, List.flatMap_singleton', concat_cons, concat_nil,
      String.append_empty]
  cases t with
  | blankLine s => exact kept _ fun c mem => ofBlank (by rw [h.2 c mem]; decide)
  | space s => exact kept _ fun c mem => ofBlank (h.2.1 c mem).1
  | number s => exact kept _ fun c mem => ofWord (Numeral.wordChars h c mem).1
  | word s => exact kept _ fun c mem => ofWord (h.2.1 c mem)
  | _ => decide

theorem concat_flatMap_encoded (wellFormed : ∀ t ∈ ts, t.WellFormed) :
    concat (ts.flatMap Token.encoded) = encode (concat ts) := by
  induction ts with
  | nil => rfl
  | cons t ts ih =>
    have own := (wellFormed t List.mem_cons_self).concat_encoded
    have later := ih fun t' mem => wellFormed t' (List.mem_cons_of_mem _ mem)
    rw [← String.toList_inj, encode, String.toList_ofList] at later ⊢
    rw [List.flatMap_cons, concat_append, String.toList_append, own, later, concat_cons,
      String.toList_append, List.flatMap_append]

/-- Encoded tokens may stand side by side where the tokens themselves may: a command
ends in a brace, and it begins with a backslash. -/
theorem Token.MayPrecede.encoded (h : t.MayPrecede next) :
    ∀ t' ∈ t.encoded.getLast?, ∀ next' ∈ next.encoded.head?, t'.MayPrecede next' := by
  intro t' last next' head
  rcases t.commandName?_cases with ⟨name, command, -⟩ | ⟨noCommand, -⟩
  · rw [Token.encoded, command] at last
    cases last
    trivial
  · rw [Token.encoded, noCommand] at last
    cases last
    rcases next.commandName?_cases with ⟨name, command, -⟩ | ⟨noCommand', -⟩
    · rw [Token.encoded, command] at head
      cases head
      cases t <;> trivial
    · rw [Token.encoded, noCommand'] at head
      cases head
      exact h

theorem Token.encoded_ne_nil (t : Token) : t.encoded ≠ [] := by
  rw [Token.encoded]
  split <;> exact List.cons_ne_nil _ _

theorem Token.WellFormed.canonical_encoded (h : t.WellFormed) : Canonical t.encoded := by
  rcases t.commandName?_cases with ⟨name, command, word⟩ | ⟨noCommand, -⟩
  · rw [Token.encoded, command]
    refine ⟨by simp [Token.WellFormed, word], by simp [Token.MayPrecede, Token.isTextLike]⟩
  · rw [Token.encoded, noCommand]
    exact ⟨by simpa using h, .singleton _⟩

theorem Canonical.encoded (h : Canonical ts) : Canonical (ts.flatMap Token.encoded) := by
  induction ts with
  | nil => exact h
  | cons t ts ih =>
    rw [List.flatMap_cons]
    refine canonical_append.mpr ⟨(h.1 t List.mem_cons_self).canonical_encoded, ih h.tail, ?_⟩
    intro t' last next' head
    cases ts with
    | nil => cases head
    | cons next ts =>
      rw [List.flatMap_cons, List.head?_append_of_ne_nil _ next.encoded_ne_nil] at head
      exact Token.MayPrecede.encoded (h.mayPrecede_head next rfl) t' last next' head

/-- The tokens of what is written. -/
theorem tokenize_encode (noReturn : '\r' ∉ s.toList) :
    tokenize (encode s) = (tokenize s).flatMap Token.encoded := by
  have canonical := (tokenize_spec s).2
  rw [← concat_tokenize noReturn, ← concat_flatMap_encoded canonical.1, concat_tokenize noReturn,
    tokenize_concat canonical.encoded]

/-! ## Reading -/

/-- Every token is read as its node. -/
theorem Parser.nodes_encoded (noBlankLine : ∀ t ∈ ts, t.isBlankLine = false) (p : Parser)
    (fits : p.depth < p.maxDepth) :
    ∃ q, p.nodes (ts.flatMap Token.encoded) = .ok (ts.map Token.plainNode) q := by
  induction ts generalizing p with
  | nil => exact ⟨p, nodes_nil⟩
  | cons t ts ih =>
    have noBlankLine' : ∀ t' ∈ ts, t'.isBlankLine = false :=
      fun t' mem => noBlankLine t' (List.mem_cons_of_mem _ mem)
    rw [List.flatMap_cons, List.map_cons, Token.plainNode, Token.encoded]
    rcases t.commandName?_cases with
      ⟨name, command, -⟩ | ⟨noCommand, noBackslash, noOpening, noClosing⟩
    · -- The argument list is empty, and the parser is where it was.
      obtain ⟨q, read⟩ := ih noBlankLine' p fits
      have step : p.command ([.backslash, .word name, .leftBrace, .rightBrace] ++
          ts.flatMap Token.encoded) = .ok (.command name [], ts.flatMap Token.encoded) p := by
        show p.command (.backslash :: .word name :: .leftBrace :: _) = _
        rw [command_leftBrace (by omega)]
        show asCommand name (p.enter.arguments name p.line (.rightBrace :: _)) = _
        rw [arguments_rightBrace]
        rfl
      refine ⟨q, ?_⟩
      simp only [command, List.cons_append, List.nil_append] at step ⊢
      rw [nodes_backslash, step]
      simp only [read, Reading.map_ok]
    · rw [noCommand]
      cases blank : t.isBlankRun with
      | true =>
        obtain ⟨s, rfl⟩ := Token.exists_eq_space blank (noBlankLine t List.mem_cons_self)
        obtain ⟨q, read⟩ := ih noBlankLine' (p.advance (.space s)) fits
        exact ⟨q, by simp [nodes_space, read]⟩
      | false =>
        have isText : t.isArgumentText = true := by
          cases t with
          | backslash => exact absurd rfl noBackslash
          | leftBrace => exact absurd rfl noOpening
          | rightBrace => exact absurd rfl noClosing
          | blankLine s => cases blank
          | space s => cases blank
          | _ => rfl
        obtain ⟨q, read⟩ := ih noBlankLine' p fits
        exact ⟨q, by simp [nodes_text (.inr isText), read]⟩

theorem trimSpaces_map_plainNode (ts : List Token) :
    Parser.trimSpaces (ts.map Token.plainNode) = (trimTokens ts).map Token.plainNode := by
  have same : Node.isSpace ∘ Token.plainNode = Token.isBlankRun := by
    funext t
    cases t <;> rfl
  simp only [Parser.trimSpaces, trimTokens, List.dropWhile_map, ← List.map_reverse, same]

/-- A token that covers two newlines is a blank line. -/
theorem tokenize_noBlankLine (noReturn : '\r' ∉ s.toList)
    (noBlankLine : ¬ ['\n', '\n'] <:+: s.toList) :
    ∀ t ∈ tokenize s, t.isBlankLine = false := by
  intro t mem
  have wellFormed := (tokenize_spec s).2.1 t mem
  cases t with
  | blankLine text =>
    obtain ⟨more, chars⟩ := wellFormed.blankLine_text
    obtain ⟨before, after, split⟩ := List.append_of_mem mem
    refine absurd ⟨(concat before).toList, more ++ (concat after).toList, ?_⟩ noBlankLine
    rw [← concat_tokenize noReturn, split, concat_append, concat_cons]
    simp [show text.toList = _ from chars, Token.text]
  | _ => rfl

/-- The document of what is written: one paragraph without blanks at its edges. -/
theorem parseDocument_encode (noReturn : '\r' ∉ s.toList)
    (noBlankLine : ¬ ['\n', '\n'] <:+: s.toList) {maxDepth : Nat} (allowed : 0 < maxDepth) :
    parseDocument (encode s) maxDepth =
      .ok ⟨[⟨(trimTokens (tokenize s)).map Token.plainNode⟩]⟩ := by
  have noBlankLine := tokenize_noBlankLine noReturn noBlankLine
  have encoded : ∀ t ∈ (tokenize s).flatMap Token.encoded, t.isBlankLine = false := by
    intro t mem
    obtain ⟨t', mem', inEncoded⟩ := List.mem_flatMap.mp mem
    rw [Token.encoded] at inEncoded
    split at inEncoded
    · simp only [List.mem_cons, List.not_mem_nil, or_false] at inEncoded
      rcases inEncoded with rfl | rfl | rfl | rfl <;> rfl
    · rw [List.mem_singleton.mp inEncoded]
      exact noBlankLine t' mem'
  obtain ⟨q, read⟩ := Parser.nodes_encoded noBlankLine (Parser.mk maxDepth 0 1 []) allowed
  rw [parseDocument, Parser.document_eq_map, tokenize_encode noReturn,
    Parser.paragraphs_of_noBlankLine encoded, Parser.block_eq_map, read]
  simp only [Reading.map_ok, trimSpaces_map_plainNode]
  rfl

/-! ## Rendering -/

theorem isAllBlank_escape (s : String) : isAllBlank (Html.escape s) = isAllBlank s := by
  have one (c : Char) : (Html.escapeChar c).all isBlank = isBlank c := by
    unfold Html.escapeChar
    split
    case h_6 => exact Bool.and_true _
    all_goals decide
  simp only [isAllBlank, Html.escape, String.toList_ofList, Html.escapeChars_eq_flatMap,
    List.all_flatMap, one]

section Documents

variable [AddressReader] [SpecialFunctions] {options : Options} {session : Session}

/-- A literal command writes its output and adds nothing to the session. -/
theorem Node.render_literal {name output : String}
    (found : lookupCommand name = some (.literal output))
    (allowed : session.depth < options.maxDepth) :
    (Node.command name []).render ⟨.standard, options⟩ session = (output, session) := by
  have evaluated (s : Session) : evaluate ⟨.standard, options⟩ name [] s = (output, s) := by
    exact builtin_of_run found rfl
  rw [Node.render, Node.clauses, nested, if_neg (Nat.not_le.mpr allowed), evaluated]
  rfl

theorem Token.render_plainNode (t : Token) (allowed : session.depth < options.maxDepth) :
    t.plainNode.render ⟨.standard, options⟩ session = (Html.escape t.shown, session) := by
  have command {name output : String} (found : lookupCommand name = some (.literal output))
      (plain : Html.escape output = output) :
      (Node.command name []).render ⟨.standard, options⟩ session =
        (Html.escape output, session) := by
    rw [Node.render_literal found allowed, plain]
  have space : Node.space.render ⟨.standard, options⟩ session = (Html.escape " ", session) := rfl
  cases t with
  | backslash => exact command (by decide +kernel) (by decide)
  | leftBrace => exact command (by decide +kernel) (by decide)
  | rightBrace => exact command (by decide +kernel) (by decide)
  | blankLine s => exact space
  | space s => exact space
  | _ => rfl

/-- The nodes of what is written are rendered as its text, and nothing is added to the
session. -/
theorem renderNodes_plain (ts : List Token) (allowed : session.depth < options.maxDepth) :
    renderNodes ⟨.standard, options⟩ (ts.map Token.plainNode) session =
      (Html.escape (String.join (ts.map Token.shown)), session) := by
  induction ts with
  | nil => rfl
  | cons t ts ih =>
    have unfolded : renderNodes ⟨.standard, options⟩ ((t :: ts).map Token.plainNode) session =
        let first := t.plainNode.render ⟨.standard, options⟩ session
        let rest := renderNodes ⟨.standard, options⟩ (ts.map Token.plainNode) first.2
        (first.1 ++ rest.1, rest.2) := rfl
    rw [unfolded, t.render_plainNode allowed]
    simp only [ih, List.map_cons, String.join_cons, Html.escape_append]

/-- A document of one paragraph, without a frame. -/
theorem renderDocument_inline {setting : Setting} (inline : setting.options.wrapParagraphs = false)
    {nodes : List Node} {html : String}
    (rendered : renderNodes setting nodes {} = (html, session)) :
    renderDocument setting ⟨[⟨nodes⟩]⟩ =
      ⟨if isAllBlank html then "" else html, session.warnings, session.lookups⟩ := by
  have joined : joinParagraphs setting.options [html] = if isAllBlank html then "" else html := by
    simp only [joinParagraphs, inline, List.filter_cons, List.filter_nil]
    cases isAllBlank html <;> rfl
  have unfolded : renderDocument setting ⟨[⟨nodes⟩]⟩ =
      let run := renderNodes setting nodes {}
      ⟨joinParagraphs setting.options [run.1], run.2.warnings, run.2.lookups⟩ := rfl
  rw [unfolded, rendered]
  simp only [joined]

/-- A text without carriage returns and blank lines is written without loss: it is read
and rendered without warnings, and what comes out is the text itself, escaped and with
its blanks collapsed. -/
theorem tryRender_encode (noReturn : '\r' ∉ s.toList) (noBlankLine : ¬ ['\n', '\n'] <:+: s.toList) :
    tryRender ⟨.standard, .inline⟩ (encode s) =
      .ok { content := Html.escape (collapse s), warnings := [], lookups := [] } := by
  have shown : collapse s = String.join ((trimTokens (tokenize s)).map Token.shown) := by
    rw [← collapse_concat (tokenize_spec s).2 (tokenize_noBlankLine noReturn noBlankLine),
      concat_tokenize noReturn]
  have read : parseDocument (encode s) Options.inline.maxDepth =
      .ok ⟨[⟨(trimTokens (tokenize s)).map Token.plainNode⟩]⟩ :=
    parseDocument_encode noReturn noBlankLine (by decide)
  have rendered : renderNodes ⟨.standard, .inline⟩
      ((trimTokens (tokenize s)).map Token.plainNode) {} = (Html.escape (collapse s), {}) := by
    rw [shown]
    exact renderNodes_plain _ (by decide)
  rw [tryRender, read, Except.map, renderDocument_inline rfl rendered, isAllBlank_escape]
  -- Without anything to show there is no paragraph, and then the text is empty too.
  split
  · rename_i blank
    rw [isAllBlank_collapse blank]
    rfl
  · rfl

end Documents

/-- All three characters of a meaning of their own, markup, a numeral in front of a brace
and blanks of several kinds. -/
theorem tryRender_encode_braces :
    let s := "\t <b> 5\x7b\\x\x7d \n a$\u3000"
    '\r' ∉ s.toList ∧ ¬ ['\n', '\n'] <:+: s.toList ∧
      encode s =
        "\t <b> 5\\left-brace\x7b\x7d\\backslash\x7b\x7dx\\right-brace\x7b\x7d \n a$\u3000" ∧
      tryRender ⟨.standard, .inline⟩ (encode s) =
        .ok ⟨"&lt;b&gt; 5\x7b\\x\x7d a$", [], []⟩ := by
  refine ⟨by decide, by decide +kernel, by decide, ?_⟩
  exact (tryRender_encode (by decide) (by decide +kernel)).trans (by decide +kernel)

end TexMarkup
