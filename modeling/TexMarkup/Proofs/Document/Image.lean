import Mathlib.Data.List.DropRight
import TexMarkup.Proofs.Document.Canonical
import TexMarkup.Proofs.Parser.Refinement

/-!
# What is read is canonical

The stack machine keeps every list that it is filling canonical. The last node of
the innermost list decides which tokens may follow, and canonical lists of tokens
hold no others. When a paragraph ends, its edges are trimmed, which keeps what is
left canonical.

## Main definitions

* `Machine.innermost`: the list that the machine is filling.
* `Machine.Canonical`: all that the machine holds is canonical and under its limit.
* `Machine.Accepts`: the next token may follow what the machine has read.

## Main results

* `Machine.Canonical.append`, `Machine.Canonical.close`,
  `Machine.Canonical.endParagraph`: the steps of the machine keep this up.
* `Machine.run_canonical`: and so do its runs over canonical lists of tokens.
* `Parser.document_canonical`: the documents that are read are canonical.
-/

namespace TexMarkup

variable {t : Token} {ts : List Token} {node : Node}

/-! ## Trimming -/

namespace Parser

variable {nodes : List Node}

theorem trimSpaces_isPrefix (nodes : List Node) :
    trimSpaces nodes <+: nodes.dropWhile Node.isSpace :=
  List.rdropWhile_prefix Node.isSpace _

/-- What is left after trimming stands together in the nodes. -/
theorem trimSpaces_isInfix (nodes : List Node) : trimSpaces nodes <:+: nodes :=
  (trimSpaces_isPrefix nodes).isInfix.trans (List.dropWhile_suffix _).isInfix

theorem head?_trimSpaces (nodes : List Node) : (trimSpaces nodes).head? ≠ some .space := by
  intro head
  obtain ⟨after, same⟩ := trimSpaces_isPrefix nodes
  have first : (nodes.dropWhile Node.isSpace).head? = some .space := by
    rw [← same, List.head?_append, head]
    rfl
  exact absurd (head?_dropWhile_eq_false Node.isSpace nodes _ first) (by decide)

theorem getLast?_trimSpaces (nodes : List Node) : (trimSpaces nodes).getLast? ≠ some .space := by
  rw [trimSpaces, List.getLast?_reverse]
  intro last
  exact absurd (head?_dropWhile_eq_false Node.isSpace _ _ last) (by decide)

/-- Nodes without spaces at their edges are left as they are. -/
theorem trimSpaces_eq_self (first : nodes.head? ≠ some .space)
    (last : nodes.getLast? ≠ some .space) : trimSpaces nodes = nodes := by
  have keep (nodes : List Node) (first : nodes.head? ≠ some .space) :
      nodes.dropWhile Node.isSpace = nodes := by
    rcases nodes with _ | ⟨node, nodes⟩
    · rfl
    · cases node with
      | space => exact absurd rfl first
      | _ => rfl
  rw [trimSpaces, keep nodes first, keep _ (by rwa [List.head?_reverse]), List.reverse_reverse]

/-- Trimming canonical nodes gives a canonical paragraph. -/
theorem canonical_trimSpaces (h : Node.CanonicalList false nodes) :
    (Paragraph.mk (trimSpaces nodes)).Canonical :=
  ⟨h.of_isInfix (trimSpaces_isInfix nodes), head?_trimSpaces nodes, getLast?_trimSpaces nodes⟩

end Parser

/-! ## What may follow a node -/

/-- Whether a node is complete in front of a token. -/
def Node.EndsBefore : Node → Token → Prop
  | .space, next => ∀ s, next ≠ .space s
  | .text s, next => WordLike s → next.isTextLike = false
  | .command _ _, _ => True

/-- A command may stand behind every node, since a backslash ends every token. -/
theorem Node.mayPrecede_command (node : Node) (name : String) (children : List Node) :
    node.MayPrecede (.command name children) := by
  cases node <;> trivial

theorem Node.mayPrecede_rightBrace (node : Node) :
    node.MayPrecede (.text Token.rightBrace.text) := by
  cases node with
  | text s => exact fun _ => .inr rfl
  | _ => trivial

theorem Node.EndsBefore.mayPrecede_space {s : String} (h : node.EndsBefore (.space s)) :
    node.MayPrecede .space := by
  cases node with
  | space => exact absurd rfl (h s)
  | _ => trivial

/-- The tokens that are kept as text are the words and numerals, the marks and the
opening brace. -/
private theorem Token.text_cases (isText : t.isArgumentText = true) (wellFormed : t.WellFormed) :
    WordLike t.text ∧ ((∃ s, t = .word s) ∨ ∃ s, t = .number s) ∨
      ¬ WordLike t.text ∧ (t = .leftBrace ∨ ∃ c ∈ textMarks, t.text = String.singleton c) := by
  cases t with
  | word s => exact .inl ⟨.inl wellFormed, .inl ⟨s, rfl⟩⟩
  | number s => exact .inl ⟨.inr wellFormed, .inr ⟨s, rfl⟩⟩
  | backslash | rightBrace | blankLine s | space s => exact absurd isText Bool.false_ne_true
  | _ => exact .inr (by decide)

/-- A token that is text in a list has a text that nodes may have there. -/
theorem Token.textContent {inside : Bool} (isText : t.isArgumentText = true)
    (wellFormed : t.WellFormed) : TextContent inside t.text := by
  rcases Token.text_cases isText wellFormed with ⟨wordLike, -⟩ | ⟨-, rfl | mark⟩
  · exact .inl wordLike
  · exact .inr (.inr (.inl rfl))
  · exact .inr (.inl mark)

/-- Nodes that were read next to each other may stand next to each other. -/
theorem Node.EndsBefore.mayPrecede_text (h : node.EndsBefore t) (isText : t.isArgumentText = true) :
    node.MayPrecede (.text t.text) := by
  cases node with
  | text s =>
    intro wordLike
    have notLike := h wordLike
    cases t with
    | leftBrace => exact .inl rfl
    | backslash | rightBrace | blankLine s | space s => exact absurd isText Bool.false_ne_true
    | _ => exact absurd notLike.symm Bool.false_ne_true
  | _ => trivial

/-- The node of a token is complete where the token is. -/
theorem Token.MayPrecede.endsBefore {next : Token} (h : t.MayPrecede next)
    (isText : t.isArgumentText = true) (wellFormed : t.WellFormed) :
    (Node.text t.text).EndsBefore next := by
  intro wordLike
  rcases Token.text_cases isText wellFormed with ⟨-, ⟨s, rfl⟩ | ⟨s, rfl⟩⟩ | ⟨notLike, -⟩
  · exact h
  · exact h
  · exact absurd wordLike notLike

/-! ## What the machine holds -/

namespace Machine

variable {m m' : Machine}

/-- The nodes of the innermost open list, or those of the paragraph if none is open. -/
def innermost (m : Machine) : List Node :=
  match m.stack with
  | [] => m.nodes
  | top :: _ => top.children

/-- Every open list is canonical, and there is room for the command that it belongs
to. -/
def CanonicalLists (maxDepth : Nat) : List OpenList → Prop
  | [] => True
  | top :: below =>
    (WordText top.name.toList ∧ Node.CanonicalList true top.children ∧
      below.length + (Node.depthList top.children + 1) ≤ maxDepth) ∧ CanonicalLists maxDepth below

/-- All that the machine has read is canonical and under its limit. -/
structure Canonical (m : Machine) : Prop where
  paragraphs : ∀ paragraph ∈ m.paragraphs,
    paragraph.Canonical ∧ Node.depthList paragraph.nodes ≤ m.maxDepth
  nodes : Node.CanonicalList false m.nodes ∧ Node.depthList m.nodes ≤ m.maxDepth
  lists : CanonicalLists m.maxDepth m.stack

/-- The next token may follow what the machine has read. -/
def Accepts (m : Machine) (ts : List Token) : Prop :=
  ∀ last ∈ m.innermost.getLast?, ∀ next ∈ ts.head?, last.EndsBefore next

/-- A node is added to the innermost list, or to the paragraph. -/
theorem innermost_append (m : Machine) (node : Node) :
    (m.append node).innermost = m.innermost ++ [node] := by
  rw [append]
  split
  · rename_i empty
    simp only [innermost, empty]
  · rename_i nonempty
    simp only [innermost, nonempty]

/-- Anything may follow where a list begins. -/
theorem accepts_of_innermost_eq_nil (fresh : m.innermost = []) (ts : List Token) :
    m.Accepts ts := by
  intro last isLast
  rw [fresh] at isLast
  cases isLast

theorem accepts_append (complete : ∀ next ∈ ts.head?, node.EndsBefore next) :
    (m.append node).Accepts ts := by
  intro last isLast
  rw [innermost_append, List.getLast?_concat] at isLast
  cases isLast
  exact complete

private theorem depthList_concat_le {nodes : List Node} {limit : Nat}
    (h : Node.depthList nodes ≤ limit) (h' : node.depth ≤ limit) :
    Node.depthList (nodes ++ [node]) ≤ limit := by
  rw [Node.depthList_le_iff] at h ⊢
  rw [List.forall_mem_append]
  exact ⟨h, by simpa using h'⟩

/-- No more lists are open than allowed. -/
theorem Canonical.stack_length_le (h : m.Canonical) : m.stack.length ≤ m.maxDepth := by
  cases stack : m.stack with
  | nil => exact Nat.zero_le _
  | cons top below =>
    obtain ⟨⟨-, -, room⟩, -⟩ := stack ▸ h.lists
    rw [List.length_cons]
    omega

/-- A canonical node may be added where it may stand. -/
theorem Canonical.append (h : m.Canonical) (canonical : node.Canonical !m.stack.isEmpty)
    (fits : m.stack.length + node.depth ≤ m.maxDepth)
    (neighbours : ∀ last ∈ m.innermost.getLast?, last.MayPrecede node) :
    (m.append node).Canonical := by
  rw [Machine.append]
  cases stack : m.stack with
  | nil =>
    rw [innermost, stack] at neighbours
    rw [stack] at canonical fits
    rw [List.length_nil, Nat.zero_add] at fits
    refine ⟨h.paragraphs, ⟨?_, depthList_concat_le h.nodes.2 fits⟩, trivial⟩
    exact Node.canonicalList_concat.mpr ⟨h.nodes.1, canonical, neighbours⟩
  | cons top below =>
    have lists := h.lists
    rw [innermost, stack] at neighbours
    rw [stack] at canonical fits lists
    obtain ⟨⟨word, listed, room⟩, lower⟩ := lists
    refine ⟨h.paragraphs, h.nodes, ⟨word, ?_, ?_⟩, lower⟩
    · exact Node.canonicalList_concat.mpr ⟨listed, canonical, neighbours⟩
    · -- The list counts for one level, and its command must still fit below.
      rw [List.length_cons] at fits
      have deepest : Node.depthList (top.children ++ [node]) ≤ m.maxDepth - (below.length + 1) :=
        depthList_concat_le (by omega) (by omega)
      show below.length + (Node.depthList (top.children ++ [node]) + 1) ≤ m.maxDepth
      omega

/-- The command of the innermost list may be added to what lies below. -/
theorem Canonical.pop {top : OpenList} {below : List OpenList} (h : m.Canonical)
    (stack : m.stack = top :: below) (closes : List ImplicitClose) :
    ({ m with stack := below, closes }.append (.command top.name top.children)).Canonical := by
  obtain ⟨⟨word, listed, room⟩, lower⟩ := stack ▸ h.lists
  have popped : { m with stack := below, closes }.Canonical := ⟨h.paragraphs, h.nodes, lower⟩
  exact popped.append ⟨word, listed⟩ room fun last _ => last.mayPrecede_command _ _

/-- A list may be opened for a word, if there is room for it. -/
theorem Canonical.push (h : m.Canonical) {name : String} {line : Nat} (word : WordText name.toList)
    (fits : ¬ m.maxDepth < m.stack.length + 1) : (m.push ⟨name, line, []⟩).Canonical :=
  ⟨h.paragraphs, h.nodes, ⟨word, trivial, Nat.le_of_not_lt fits⟩, h.lists⟩

theorem Canonical.advance (h : m.Canonical) (t : Token) : (m.advance t).Canonical :=
  ⟨h.paragraphs, h.nodes, h.lists⟩

/-- A list that is closed at the end of its paragraph makes a canonical command. -/
theorem Canonical.closeImplicitly (h : m.Canonical) : m.closeImplicitly.Canonical := by
  rw [Machine.closeImplicitly]
  split
  · exact h
  · rename_i stack
    exact h.pop stack _

/-- So does one that is closed by a brace, and everything may stand behind it. -/
theorem Canonical.close (h : m.Canonical) :
    m.close.Canonical ∧ ∀ ts, m.close.Accepts ts := by
  rw [Machine.close]
  split
  · rename_i stack
    refine ⟨h.append ?_ ?_ fun last _ => last.mayPrecede_rightBrace, ?_⟩
    · rw [stack]
      exact .inr (.inr (.inr ⟨rfl, rfl⟩))
    · rw [stack]
      exact Nat.zero_le _
    · exact fun ts => accepts_append fun next _ wordLike => absurd wordLike (by decide)
  · rename_i stack
    exact ⟨h.pop stack _, fun ts => accepts_append fun next _ => trivial⟩

/-- A command without a list takes no more room than one with it. -/
theorem Canonical.append_bare (h : m.Canonical) {name : String} (word : WordText name.toList)
    (fits : ¬ m.maxDepth < m.stack.length + 1) :
    (m.append (.command name [])).Canonical ∧ ∀ ts, (m.append (.command name [])).Accepts ts := by
  refine ⟨h.append ⟨word, trivial⟩ (Nat.le_of_not_lt fits) fun last _ => ?_, fun ts => ?_⟩
  · exact last.mayPrecede_command name []
  · exact accepts_append fun _ _ => trivial

/-- Ending a paragraph adds a canonical one and leaves no list open. -/
theorem Canonical.endParagraph (h : m.Canonical) :
    m.endParagraph.Canonical ∧ m.endParagraph.paragraphs ≠ [] ∧
      ∀ ts, m.endParagraph.Accepts ts := by
  have closed : m.closeAll.Canonical :=
    Function.Iterate.rec Canonical h (fun _ => closeImplicitly) m.stack.length
  have trimmed : Node.depthList (Parser.trimSpaces m.closeAll.nodes) ≤ m.closeAll.maxDepth := by
    have deepest := Node.depthList_le_iff.mp closed.nodes.2
    exact Node.depthList_le_iff.mpr fun node mem =>
      deepest node ((Parser.trimSpaces_isInfix _).subset mem)
  refine ⟨⟨?_, ⟨trivial, Nat.zero_le _⟩, closed.lists⟩, ?_, ?_⟩
  · rw [Machine.endParagraph]
    intro paragraph mem
    rcases List.mem_append.mp mem with mem | mem
    · exact closed.paragraphs paragraph mem
    · rw [List.mem_singleton.mp mem]
      exact ⟨Parser.canonical_trimSpaces closed.nodes.1, trimmed⟩
  · rw [Machine.endParagraph]
    exact List.append_ne_nil_of_right_ne_nil _ (List.cons_ne_nil _ _)
  · refine accepts_of_innermost_eq_nil ?_
    rw [innermost, Machine.endParagraph]
    simp only [closeAll_stack]

/-- A run over a canonical list of tokens keeps what the machine holds canonical. -/
theorem run_canonical (tokens : TexMarkup.Canonical ts) (h : m.Canonical) (accepts : m.Accepts ts)
    (ran : m.run ts = .ok m') : m'.Canonical ∧ m'.paragraphs ≠ [] := by
  -- One case for each equation of `run`: the ends of paragraphs first, then commands.
  induction m, ts using run.induct with
  | case1 m =>
    rw [run] at ran
    cases ran
    exact ⟨h.endParagraph.1, h.endParagraph.2.1⟩
  | case2 m s ts ih =>
    rw [run] at ran
    exact ih tokens.tail (h.endParagraph.1.advance _) (h.endParagraph.2.2 ts) ran
  | case3 m name ts deep =>
    rw [run_of_tooDeep deep] at ran
    cases ran
  | case4 m name fits ts ih =>
    rw [run_leftBrace fits] at ran
    have word : WordText name.toList := tokens.1 (.word name) (by simp)
    exact ih tokens.tail.tail.tail (h.push word fits) (accepts_of_innermost_eq_nil rfl ts) ran
  | case5 m name fits s ts ih =>
    rw [run_delimited fits] at ran
    have word : WordText name.toList := tokens.1 (.word name) (by simp)
    obtain ⟨appended, accepts'⟩ := h.append_bare word fits
    exact ih tokens.tail.tail.tail (appended.advance _) (accepts' ts) ran
  | case6 m name fits ts noBrace noSpace ih =>
    rw [run_bare fits noBrace noSpace] at ran
    have word : WordText name.toList := tokens.1 (.word name) (by simp)
    obtain ⟨appended, accepts'⟩ := h.append_bare word fits
    exact ih tokens.tail.tail appended (accepts' ts) ran
  | case7 m ts noName =>
    rw [run_of_name_missing noName] at ran
    cases ran
  | case8 m s ts ih =>
    rw [run] at ran
    have appended : (m.append .space).Canonical :=
      h.append trivial h.stack_length_le fun last isLast =>
        (accepts last isLast _ rfl).mayPrecede_space
    refine ih tokens.tail (appended.advance _) (accepts_append fun next head s' same => ?_) ran
    subst same
    exact tokens.mayPrecede_head _ head
  | case9 m ts ih =>
    rw [run] at ran
    exact ih tokens.tail h.close.1 (h.close.2 ts) ran
  | case10 m t ts noBlankLine _ noBackslash noSpace noBrace ih =>
    have isText := Token.isArgumentText_of_ne noBlankLine noBackslash noSpace noBrace
    have wellFormed := tokens.1 t List.mem_cons_self
    -- A word or a numeral is followed by no other text than a brace.
    rw [run_text isText] at ran
    have appended : (m.append (.text t.text)).Canonical :=
      h.append (Token.textContent isText wellFormed) h.stack_length_le fun last isLast =>
        (accepts last isLast _ rfl).mayPrecede_text isText
    exact ih tokens.tail appended (accepts_append fun next head =>
      (tokens.mayPrecede_head next head).endsBefore isText wellFormed) ran

end Machine

namespace Parser

/-- The document that a fresh parser reads from a canonical list of tokens is
canonical and under its limit. -/
theorem document_canonical {maxDepth : Nat} {document : Document} {q : Parser}
    (tokens : Canonical ts)
    (read : Parser.document (Parser.mk maxDepth 0 1 []) ts = .ok document q) :
    document.Canonical ∧ document.NestsWithin maxDepth := by
  have ran := document_run maxDepth ts
  rw [read] at ran
  have fresh : Machine.Canonical { maxDepth } :=
    ⟨fun _ mem => (nomatch mem), ⟨trivial, Nat.zero_le _⟩, trivial⟩
  obtain ⟨canonical, nonempty⟩ :=
    Machine.run_canonical tokens fresh (Machine.accepts_of_innermost_eq_nil rfl ts) ran
  refine ⟨⟨nonempty, fun paragraph mem => (canonical.paragraphs paragraph mem).1⟩, ?_⟩
  exact fun paragraph mem => Node.depthList_le_iff.mp (canonical.paragraphs paragraph mem).2

end Parser

end TexMarkup
