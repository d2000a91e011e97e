import TexMarkup.Proofs.Document.Canonical
import TexMarkup.Proofs.Parser.Reading

/-!
# The tokens of a printed document

Printing a canonical document puts the texts of a canonical list of tokens one
after the other, so tokenizing the printed text gives these tokens back.

## Main definitions

* `Token.ofText`: the token of a text.
* `Node.tokens`, `Paragraph.tokens`, `Document.tokens`: the tokens of what is printed.

## Main results

* `TextContent.token`: the token of a text covers it.
* `Node.MayPrecede.tokens`: nodes that may stand side by side have tokens that may.
* `Document.tokenize_print`: a printed document is tokenized as it was written.
-/

namespace TexMarkup

/-! ## Tokens of texts -/

/-- The token that is read where a text stands alone. -/
def Token.ofText (s : String) : Token :=
  match s.toList with
  | [c] => (Token.ofSymbol? c).getD (wordToken [c])
  | cs => wordToken cs

variable {s : String} {inside inside' : Bool} {t next : Token} {ts ts' : List Token}
  {node next' : Node}

private theorem Token.ofText_eq_wordToken (wordChars : ∀ c ∈ s.toList, isWordChar c = true)
    (noMark : ∀ c ∈ s.toList.head?, c ∉ textMarks) : Token.ofText s = wordToken s.toList := by
  rw [Token.ofText]
  split
  · rename_i c chars
    rw [chars] at wordChars noMark ⊢
    have wordChar := wordChars c List.mem_cons_self
    have noSymbol : Token.ofSymbol? c = none := by
      refine ofSymbol?_eq_none_iff.mpr ⟨noMark c rfl, ?_, ?_, ?_⟩
      all_goals rintro rfl; exact absurd wordChar (by decide)
    rw [noSymbol, Option.getD_none]
  · rfl

/-- A text that only a word can have is that of the word. -/
theorem Token.ofText_of_wordText (h : WordText s.toList) : Token.ofText s = .word s := by
  rw [Token.ofText_eq_wordToken h.2.1 h.2.2.1, wordToken, if_neg (mt isNumeral_iff.mp h.2.2.2),
    String.ofList_toList]

theorem Token.ofText_of_numeral (h : Numeral s.toList) : Token.ofText s = .number s := by
  have wordChars := h.wordChars
  rw [Token.ofText_eq_wordToken (fun c mem => (wordChars c mem).1), wordToken,
    if_pos (isNumeral_iff.mpr h), String.ofList_toList]
  exact fun c head => (ofSymbol?_eq_none_iff.mp (wordChars c (List.mem_of_mem_head? head)).2).1

private theorem Token.ofText_singleton_of_mem_textMarks {c : Char} (mark : c ∈ textMarks) :
    ∃ t, Token.ofSymbol? c = some t ∧ Token.ofText (String.singleton c) = t ∧
      t.isTextLike = true := by
  simp only [textMarks, List.mem_cons, List.not_mem_nil, or_false] at mark
  rcases mark with rfl | rfl | rfl | rfl | rfl | rfl <;> exact ⟨_, rfl, rfl, rfl⟩

/-- No text is taken for blanks, which are nodes of their own. -/
theorem Token.isBlankRun_ofText (s : String) : (Token.ofText s).isBlankRun = false := by
  have ofWord (cs : List Char) : (wordToken cs).isBlankRun = false := by
    rw [wordToken]
    split <;> rfl
  rw [Token.ofText]
  split
  · rename_i c _
    cases symbol : Token.ofSymbol? c with
    | none => exact ofWord [c]
    | some t =>
      unfold Token.ofSymbol? at symbol
      split at symbol <;> cases symbol <;> rfl
  · exact ofWord _

theorem WordLike.token (h : WordLike s) : Token.ofText s = .word s ∨ Token.ofText s = .number s :=
  h.imp Token.ofText_of_wordText Token.ofText_of_numeral

/-- The token of a text covers the text, and is kept as text where the text may
stand. -/
theorem TextContent.token (h : TextContent inside s) :
    (Token.ofText s).text = s ∧ (Token.ofText s).WellFormed ∧
      ((Token.ofText s).isArgumentText = true ∨
        inside = false ∧ Token.ofText s = .rightBrace) := by
  rcases h with (word | numeral) | ⟨c, mark, rfl⟩ | rfl | ⟨outside, rfl⟩
  · rw [Token.ofText_of_wordText word]
    exact ⟨rfl, word, .inl rfl⟩
  · rw [Token.ofText_of_numeral numeral]
    exact ⟨rfl, numeral, .inl rfl⟩
  · obtain ⟨t, symbol, same, textLike⟩ := Token.ofText_singleton_of_mem_textMarks mark
    rw [same]
    refine ⟨Token.text_of_ofSymbol? symbol, ?_, .inl ?_⟩
    · unfold Token.ofSymbol? at symbol
      split at symbol <;> cases symbol <;> trivial
    · cases t <;> first | rfl | exact absurd textLike Bool.false_ne_true
  · exact ⟨rfl, trivial, .inl rfl⟩
  · exact ⟨rfl, trivial, .inr ⟨outside, rfl⟩⟩

/-! ## Tokens side by side -/

/-- A text may stand in front of every token that it would not be lexed together with. -/
theorem TextContent.mayPrecede (h : TextContent inside s)
    (notText : WordLike s → next.isTextLike = false) : (Token.ofText s).MayPrecede next := by
  by_cases wordLike : WordLike s
  · rcases wordLike.token with same | same <;> rw [same] <;> exact notText wordLike
  · rcases h with wordLike' | ⟨c, mark, rfl⟩ | rfl | ⟨-, rfl⟩
    · exact absurd wordLike' wordLike
    · obtain ⟨t, symbol, same, -⟩ := Token.ofText_singleton_of_mem_textMarks mark
      rw [same]
      unfold Token.ofSymbol? at symbol
      split at symbol <;> cases symbol <;> trivial
    · trivial
    · trivial

theorem Token.space_mayPrecede (notBlank : next.isBlankRun = false) :
    (Token.space s).MayPrecede next := by
  cases next <;> first | exact Bool.noConfusion notBlank | trivial

theorem Token.newlineCount_of_isBlankRun_eq_false (notBlank : t.isBlankRun = false) :
    t.newlineCount = 0 := by
  cases t <;> first | rfl | exact Bool.noConfusion notBlank

/-- A closing brace may stand behind everything. -/
theorem Token.mayPrecede_rightBrace (t : Token) : t.MayPrecede .rightBrace := by
  cases t <;> trivial

/-- A blank line may stand between all tokens without newlines. -/
theorem Token.mayPrecede_blankLine (wellFormed : t.WellFormed) (flat : t.newlineCount = 0)
    (s : String) : t.MayPrecede (.blankLine s) ∧ (Token.blankLine s).MayPrecede t := by
  cases t with
  | blankLine s' =>
    obtain ⟨more, chars⟩ := wellFormed.blankLine_text
    rw [Token.newlineCount, show s'.toList = _ from chars] at flat
    exact absurd flat (by simp)
  | space s' =>
    have noNewline : '\n' ∉ s'.toList := List.count_eq_zero.mp flat
    constructor
    · exact fun last => noNewline (List.mem_of_mem_getLast? last)
    · exact fun head => noNewline (List.mem_of_mem_head? head)
  | _ => constructor <;> trivial

/-- Two canonical lists are canonical together if the tokens where they meet may be neighbours. -/
theorem canonical_append : Canonical (ts ++ ts') ↔
    Canonical ts ∧ Canonical ts' ∧ ∀ t ∈ ts.getLast?, ∀ t' ∈ ts'.head?, t.MayPrecede t' := by
  simp only [Canonical, List.isChain_append, List.forall_mem_append]
  tauto

@[simp] theorem concat_nil : concat [] = "" := rfl

@[simp] theorem concat_cons (t : Token) (ts : List Token) :
    concat (t :: ts) = t.text ++ concat ts := by
  rw [concat, List.map_cons, String.join_cons]
  rfl

theorem concat_append (ts ts' : List Token) : concat (ts ++ ts') = concat ts ++ concat ts' := by
  rw [concat, List.map_append, String.join_append]
  rfl

/-! ## Tokens of trees -/

mutual

/-- The tokens of a printed tree. -/
def Node.tokens : Node → List Token
  | .text content => [Token.ofText content]
  | .space => [.space " "]
  | .command name children =>
    [.backslash, .word name, .leftBrace] ++ Node.tokensList children ++ [.rightBrace]

/-- The tokens of the trees of a list, from left to right. -/
def Node.tokensList : List Node → List Token
  | [] => []
  | node :: nodes => node.tokens ++ Node.tokensList nodes

end

/-- The tokens of a printed paragraph. -/
def Paragraph.tokens (paragraph : Paragraph) : List Token :=
  if paragraph.nodes = [] then [.space " "] else Node.tokensList paragraph.nodes

/-- The tokens of a printed document. -/
def Document.tokens (document : Document) : List Token :=
  [Token.blankLine "\n\n"].intercalate (document.paragraphs.map Paragraph.tokens)

namespace Node

theorem tokens_ne_nil (node : Node) : node.tokens ≠ [] := by
  cases node <;> simp [tokens]

/-- Where two nodes may stand side by side, so may the tokens at which they meet. -/
theorem MayPrecede.tokens (h : node.MayPrecede next') (canonical : node.Canonical inside) :
    ∀ t ∈ node.tokens.getLast?, ∀ t' ∈ next'.tokens.head?, t.MayPrecede t' := by
  intro t last t' head
  -- The last token of the first node decides: a command ends in a brace, after which
  -- everything may stand.
  cases node with
  | text content =>
    obtain rfl : Token.ofText content = t := Option.some.inj last
    refine TextContent.mayPrecede canonical fun wordLike => ?_
    cases next' with
    | text content' =>
      obtain rfl : Token.ofText content' = t' := Option.some.inj head
      rcases h wordLike with rfl | rfl <;> rfl
    | space => cases head; rfl
    | command name children => cases head; rfl
  | space =>
    obtain rfl : Token.space " " = t := Option.some.inj last
    apply Token.space_mayPrecede
    cases next' with
    | text content' =>
      obtain rfl : Token.ofText content' = t' := Option.some.inj head
      exact Token.isBlankRun_ofText content'
    | space => exact h.elim
    | command name children => cases head; rfl
  | command name children =>
    rw [Node.tokens, List.getLast?_concat] at last
    cases last
    trivial

/-- The tokens of some nodes begin with those of the first one. -/
theorem tokensList_head? (nodes : List Node) :
    (tokensList nodes).head? = nodes.head?.bind fun node => node.tokens.head? := by
  cases nodes with
  | nil => rfl
  | cons node nodes =>
    rw [tokensList, List.head?_append_of_ne_nil _ node.tokens_ne_nil]
    rfl

mutual

/-- No token of a printed tree holds a newline. -/
theorem tokens_newlineCount (node : Node) : ∀ t ∈ node.tokens, t.newlineCount = 0 := by
  intro t mem
  match node with
  | .text content =>
    rw [List.mem_singleton.mp mem]
    exact Token.newlineCount_of_isBlankRun_eq_false (Token.isBlankRun_ofText content)
  | .space =>
    rw [List.mem_singleton.mp mem]
    rfl
  | .command name children =>
    simp only [tokens, List.mem_append, List.mem_cons, List.not_mem_nil, or_false] at mem
    rcases mem with ((rfl | rfl | rfl) | mem) | rfl
    · rfl
    · rfl
    · rfl
    · exact tokensList_newlineCount children t mem
    · rfl

/-- Nodes are written without newlines, since every space is a single blank. -/
theorem tokensList_newlineCount (nodes : List Node) :
    ∀ t ∈ tokensList nodes, t.newlineCount = 0 := by
  intro t mem
  match nodes with
  | [] => exact absurd mem List.not_mem_nil
  | node :: nodes =>
    rcases List.mem_append.mp mem with mem | mem
    · exact tokens_newlineCount node t mem
    · exact tokensList_newlineCount nodes t mem

end

mutual

theorem canonical_tokens {inside : Bool} (node : Node) (h : node.Canonical inside) :
    TexMarkup.Canonical node.tokens := by
  match node with
  | .text content => exact ⟨by simpa [tokens] using h.token.2.1, List.isChain_singleton _⟩
  | .space => decide
  | .command name children =>
    obtain ⟨word, canonical⟩ := h
    have opening : TexMarkup.Canonical [.backslash, .word name, .leftBrace] := by
      refine ⟨?_, ?_⟩
      · simp [Token.WellFormed, word]
      · simp [Token.MayPrecede, Token.isTextLike]
    have closing : TexMarkup.Canonical [.rightBrace] := by decide
    have listed := canonical_tokensList children canonical
    -- Braces may stand beside every token, so the children need no check at the edges.
    refine canonical_append.mpr ⟨canonical_append.mpr ⟨opening, listed, ?_⟩, closing, ?_⟩
    · rintro t ⟨⟩ t' _
      trivial
    · rintro t _ t' ⟨⟩
      exact t.mayPrecede_rightBrace

/-- The tokens of canonical nodes are those that their text is lexed to. -/
theorem canonical_tokensList {inside : Bool} (nodes : List Node) (h : CanonicalList inside nodes) :
    TexMarkup.Canonical (tokensList nodes) := by
  match nodes with
  | [] => decide
  | node :: nodes =>
    obtain ⟨canonical, neighbours, canonical'⟩ := h
    refine canonical_append.mpr
      ⟨canonical_tokens node canonical, canonical_tokensList nodes canonical', ?_⟩
    intro t last t' head
    rw [tokensList_head?] at head
    obtain ⟨next, next_eq, head⟩ := Option.bind_eq_some_iff.mp head
    exact (neighbours next next_eq).tokens canonical t last t' head

end

mutual

/-- The tokens of a printed tree have its text. -/
theorem concat_tokens {inside : Bool} (node : Node) (h : node.Canonical inside) :
    concat node.tokens = node.print := by
  match node with
  | .text content =>
    rw [tokens, concat_cons, concat_nil, String.append_empty]
    exact h.token.1
  | .space => rfl
  | .command name children =>
    simp only [tokens, concat_append, concat_tokensList children h.2, print, concat_cons,
      concat_nil, Token.text, String.append_empty, String.append_assoc]

/-- The text of the tokens is the printed one. -/
theorem concat_tokensList {inside : Bool} (nodes : List Node) (h : CanonicalList inside nodes) :
    concat (tokensList nodes) = printList nodes := by
  match nodes with
  | [] => rfl
  | node :: nodes =>
    rw [tokensList, concat_append, concat_tokens node h.1, concat_tokensList nodes h.2.2, printList]

end

end Node

/-! ## Tokens of paragraphs and documents -/

theorem Paragraph.tokens_ne_nil (paragraph : Paragraph) : paragraph.tokens ≠ [] := by
  rw [tokens]
  split
  · exact List.cons_ne_nil _ _
  · rename_i nonempty
    obtain ⟨node, nodes, same⟩ := List.exists_cons_of_ne_nil nonempty
    rw [same, Node.tokensList]
    exact List.append_ne_nil_of_left_ne_nil node.tokens_ne_nil _

theorem Paragraph.tokens_newlineCount (paragraph : Paragraph) :
    ∀ t ∈ paragraph.tokens, t.newlineCount = 0 := by
  rw [tokens]
  split
  · decide
  · exact Node.tokensList_newlineCount paragraph.nodes

theorem Paragraph.Canonical.tokens {paragraph : Paragraph} (h : paragraph.Canonical) :
    TexMarkup.Canonical paragraph.tokens ∧ concat paragraph.tokens = paragraph.print := by
  rw [Paragraph.tokens, Paragraph.print]
  split
  · exact ⟨by decide, rfl⟩
  · exact ⟨Node.canonical_tokensList _ h.1, Node.concat_tokensList _ h.1⟩

private theorem Paragraph.head?_intercalate (separator : List Token) (paragraph : Paragraph)
    (paragraphs : List Paragraph) :
    (separator.intercalate (paragraph.tokens :: paragraphs.map Paragraph.tokens)).head? =
      paragraph.tokens.head? := by
  cases paragraphs with
  | nil => rw [List.map_nil, List.intercalate_singleton]
  | cons paragraph' paragraphs =>
    rw [List.map_cons, List.intercalate_cons_cons, List.append_assoc,
      List.head?_append_of_ne_nil _ paragraph.tokens_ne_nil]

private theorem Paragraph.canonical_intercalate (paragraphs : List Paragraph)
    (canonical : ∀ paragraph ∈ paragraphs, paragraph.Canonical) :
    TexMarkup.Canonical ([Token.blankLine "\n\n"].intercalate (paragraphs.map Paragraph.tokens)) ∧
      concat ([Token.blankLine "\n\n"].intercalate (paragraphs.map Paragraph.tokens)) =
        "\n\n".intercalate (paragraphs.map Paragraph.print) := by
  induction paragraphs with
  | nil => exact ⟨by decide, rfl⟩
  | cons paragraph paragraphs ih =>
    obtain ⟨own, printed⟩ := (canonical paragraph List.mem_cons_self).tokens
    obtain ⟨rest, restPrinted⟩ := ih fun p mem => canonical p (List.mem_cons_of_mem _ mem)
    cases paragraphs with
    | nil => simpa using ⟨own, printed⟩
    | cons paragraph' paragraphs =>
      have own' := (canonical paragraph' (by simp)).tokens.1
      rw [List.map_cons] at rest restPrinted
      rw [List.map_cons, List.map_cons, List.intercalate_cons_cons, List.map_cons, List.map_cons,
        String.intercalate_cons_cons]
      rw [List.map_cons] at restPrinted
      refine ⟨canonical_append.mpr ⟨canonical_append.mpr ⟨own, by decide, ?_⟩, rest, ?_⟩, ?_⟩
      · rintro t last t' ⟨⟩
        have mem := List.mem_of_mem_getLast? last
        exact (t.mayPrecede_blankLine (own.1 t mem) (paragraph.tokens_newlineCount t mem) _).1
      · intro t last t' head
        rw [List.getLast?_concat] at last
        rw [Paragraph.head?_intercalate] at head
        cases last
        have mem := List.mem_of_mem_head? head
        exact (t'.mayPrecede_blankLine (own'.1 t' mem) (paragraph'.tokens_newlineCount t' mem) _).2
      · rw [concat_append, concat_append, printed, restPrinted]
        rfl

/-- The tokens of a canonical document are canonical, and have the text of the
document. -/
theorem Document.Canonical.tokens {document : Document} (h : document.Canonical) :
    TexMarkup.Canonical document.tokens ∧ concat document.tokens = document.print :=
  Paragraph.canonical_intercalate document.paragraphs h.2

/-- A printed document is tokenized as it was written. -/
theorem Document.Canonical.tokenize_print {document : Document} (h : document.Canonical) :
    tokenize document.print = document.tokens := by
  rw [← h.tokens.2, tokenize_concat h.tokens.1]

end TexMarkup
