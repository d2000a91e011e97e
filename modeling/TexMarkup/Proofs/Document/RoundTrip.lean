import TexMarkup.Proofs.Document.Image
import TexMarkup.Proofs.Document.Tokens

/-!
# Printed documents are read back

The stack machine rebuilds a tree from the tokens of its printed form, in whatever
list it is filling: a command opens its own list, fills it and closes it again. So
the documents that can be read are exactly the canonical ones.

## Main results

* `Node.run_tokens`: the tokens of a printed tree add the tree.
* `Paragraph.Canonical.run_tokens`: those of a printed paragraph add the paragraph.
* `parseDocument_canonical_roundTrip`: what is read is canonical, and canonical
  documents are read back from their printed form.
-/

namespace TexMarkup

namespace Machine

variable {m : Machine} {nodes : List Node}

theorem append_maxDepth (node : Node) : (m.append node).maxDepth = m.maxDepth := by
  rw [append]
  split <;> rfl

theorem append_stack_eq_nil (node : Node) (empty : m.stack = []) : (m.append node).stack = [] :=
  List.eq_nil_of_length_eq_zero (by rw [append_stack_length, empty]; rfl)

/-- Nodes fill the list on top of the stack. -/
theorem foldl_append_push (m : Machine) (list : OpenList) (nodes : List Node) :
    nodes.foldl append (m.push list) =
      m.push { list with children := list.children ++ nodes } := by
  induction nodes generalizing list with
  | nil => rw [List.append_nil]; rfl
  | cons node nodes ih =>
    have added : (m.push list).append node =
        m.push { list with children := list.children ++ [node] } := rfl
    rw [List.foldl_cons, added, ih, List.append_assoc, List.singleton_append]

/-- Outside of all lists, nodes are added to the paragraph. -/
theorem foldl_append_of_stack_nil (empty : m.stack = []) (nodes : List Node) :
    nodes.foldl append m = m.addNodes nodes := by
  induction nodes generalizing m with
  | nil => simp only [List.foldl_nil, addNodes, List.append_nil]
  | cons node nodes ih =>
    rw [List.foldl_cons, ih (append_stack_eq_nil node empty), append, empty]
    simp only [addNodes, List.append_assoc, List.singleton_append, empty]

end Machine

namespace Node

mutual

/-- Reading the tokens of a printed tree adds the tree. -/
theorem run_tokens {inside : Bool} (node : Node) (canonical : node.Canonical inside) {m : Machine}
    (outside : inside = false → m.stack = []) (fits : m.stack.length + node.depth ≤ m.maxDepth)
    (ts : List Token) : m.run (node.tokens ++ ts) = (m.append node).run ts := by
  match node with
  | .text content =>
    obtain ⟨text, -, isText | ⟨isOutside, brace⟩⟩ := canonical.token
    · rw [tokens, List.singleton_append, Machine.run_text isText, text]
    · rw [brace] at text
      rw [tokens, brace, List.singleton_append, Machine.run, Machine.close, outside isOutside, text]
  | .space =>
    rw [tokens, List.singleton_append, Machine.run]
    rfl
  | .command name children =>
    rw [depth] at fits
    have room : ¬ m.maxDepth < m.stack.length + 1 := by omega
    -- The children fill a list of their own, in which a closing brace is never text.
    have listed := run_tokensList children canonical.2 (m := m.push ⟨name, m.line, []⟩)
      (fun inside => absurd inside.symm Bool.false_ne_true)
      (by simp only [Machine.push, List.length_cons]; omega) (.rightBrace :: ts)
    rw [Machine.foldl_append_push, List.nil_append] at listed
    calc m.run (tokens (.command name children) ++ ts)
        = (m.push ⟨name, m.line, []⟩).run (tokensList children ++ .rightBrace :: ts) := by
          rw [tokens, List.append_assoc, List.append_assoc]
          exact Machine.run_leftBrace room
      _ = (m.push ⟨name, m.line, children⟩).run (.rightBrace :: ts) := listed
      _ = (m.append (.command name children)).run ts := by
          rw [Machine.run]
          rfl

/-- Reading the tokens of printed trees adds the trees. -/
theorem run_tokensList {inside : Bool} (nodes : List Node) (canonical : CanonicalList inside nodes)
    {m : Machine} (outside : inside = false → m.stack = [])
    (fits : m.stack.length + depthList nodes ≤ m.maxDepth) (ts : List Token) :
    m.run (tokensList nodes ++ ts) = (nodes.foldl Machine.append m).run ts := by
  match nodes with
  | [] => rfl
  | node :: nodes =>
    rw [depthList] at fits
    rw [tokensList, List.append_assoc, run_tokens node canonical.1 outside (by omega),
      run_tokensList nodes canonical.2.2, List.foldl_cons]
    · exact fun isOutside => Machine.append_stack_eq_nil node (outside isOutside)
    · rw [Machine.append_stack_length, Machine.append_maxDepth]
      omega

end

end Node

/-! ## Paragraphs and documents -/

/-- The tokens of a printed paragraph are those of nodes that are trimmed to its
own: an empty paragraph is written as a space. -/
theorem Paragraph.Canonical.exists_nodes {paragraph : Paragraph} (h : paragraph.Canonical) :
    ∃ nodes, paragraph.tokens = Node.tokensList nodes ∧ Node.CanonicalList false nodes ∧
      Node.depthList nodes = Node.depthList paragraph.nodes ∧
      Parser.trimSpaces nodes = paragraph.nodes := by
  rw [Paragraph.tokens]
  split
  · rename_i noNodes
    rw [noNodes]
    exact ⟨[.space], rfl, by decide, rfl, rfl⟩
  · exact ⟨paragraph.nodes, rfl, h.1, rfl, Parser.trimSpaces_eq_self h.2.1 h.2.2⟩

variable {m : Machine}

/-- Reading the tokens of a printed paragraph adds the paragraph. -/
theorem Paragraph.Canonical.run_tokens {paragraph : Paragraph} (h : paragraph.Canonical)
    (empty : m.stack = []) (fresh : m.nodes = [])
    (fits : ∀ node ∈ paragraph.nodes, node.depth ≤ m.maxDepth) {after : List Token}
    (ends : endsParagraph after = true) :
    m.run (paragraph.tokens ++ after) = (m.addParagraphs [paragraph]).resume after := by
  obtain ⟨nodes, tokens_eq, canonical, sameDepth, trimmed⟩ := h.exists_nodes
  have room : m.stack.length + Node.depthList nodes ≤ m.maxDepth := by
    rw [empty, List.length_nil, Nat.zero_add, sameDepth]
    exact Node.depthList_le_iff.mpr fits
  rw [tokens_eq, Node.run_tokensList nodes canonical (fun _ => empty) room,
    Machine.foldl_append_of_stack_nil empty, Machine.run_of_endsParagraph ends,
    Machine.endParagraph_addNodes empty fresh, trimmed]

/-- Reading the tokens of printed paragraphs adds the paragraphs, and closes no list
that was left open. -/
private theorem Paragraph.run_intercalate (paragraphs : List Paragraph) (nonempty : paragraphs ≠ [])
    (canonical : ∀ paragraph ∈ paragraphs, paragraph.Canonical)
    (empty : m.stack = []) (fresh : m.nodes = [])
    (fits : ∀ paragraph ∈ paragraphs, ∀ node ∈ paragraph.nodes, node.depth ≤ m.maxDepth) :
    ∃ line, m.run ([Token.blankLine "\n\n"].intercalate (paragraphs.map Paragraph.tokens)) =
      .ok { m.addParagraphs paragraphs with line } := by
  induction paragraphs generalizing m with
  | nil => exact absurd rfl nonempty
  | cons paragraph paragraphs ih =>
    have own := canonical paragraph List.mem_cons_self
    have ownFits := fits paragraph List.mem_cons_self
    cases paragraphs with
    | nil =>
      have ends : endsParagraph [] = true := rfl
      have read := own.run_tokens empty fresh ownFits ends
      rw [List.append_nil] at read
      rw [List.map_singleton, List.intercalate_singleton]
      exact ⟨m.line, read⟩
    | cons paragraph' paragraphs =>
      rw [List.map_cons, List.map_cons, List.intercalate_cons_cons, List.append_assoc,
        own.run_tokens empty fresh ownFits rfl]
      -- The blank line in between leaves nothing behind but its lines.
      obtain ⟨line, read⟩ := ih (m := (m.addParagraphs [paragraph]).advance (.blankLine "\n\n"))
        (List.cons_ne_nil _ _) (fun p mem => canonical p (List.mem_cons_of_mem _ mem)) empty fresh
        (fun p mem => fits p (List.mem_cons_of_mem _ mem))
      refine ⟨line, read.trans ?_⟩
      simp only [Machine.addParagraphs, Machine.advance, List.append_assoc, List.singleton_append]

/-- A fresh parser reads a canonical document from the tokens of its printed form,
and has no list to close at the end of a paragraph. -/
theorem Document.Canonical.document_tokens {document : Document} {maxDepth : Nat}
    (h : document.Canonical) (fits : document.NestsWithin maxDepth) :
    (Parser.document (Parser.mk maxDepth 0 1 []) document.tokens).outcome = .ok (document, []) := by
  obtain ⟨line, ran⟩ :=
    Paragraph.run_intercalate document.paragraphs h.1 h.2 (m := { maxDepth }) rfl rfl fits
  have whole := Parser.document_run maxDepth document.tokens
  cases read : Parser.document (Parser.mk maxDepth 0 1 []) document.tokens with
  | error e q =>
    rw [read] at whole
    exact absurd (whole.symm.trans ran) (by simp)
  | ok document' q =>
    rw [read] at whole
    have same := Except.ok.inj (whole.symm.trans ran)
    have closes : q.implicitCloses = [] := congrArg Machine.closes same
    have document_eq : document' = document :=
      congrArg Document.mk (congrArg Machine.paragraphs same)
    rw [Reading.outcome, closes, document_eq]

/-! ## The image of the parser -/

/-- What is read from a text is canonical and under the limit. A canonical document
under the limit is read back from its printed form, in which every list is closed,
so the documents that can be read are exactly these. -/
theorem parseDocument_canonical_roundTrip (maxDepth : Nat) :
    (∀ text document, parseDocument text maxDepth = .ok document →
        document.Canonical ∧ document.NestsWithin maxDepth) ∧
      (∀ document : Document, document.Canonical → document.NestsWithin maxDepth →
        parseDocument document.print maxDepth = .ok document ∧
          (Parser.document (Parser.mk maxDepth 0 1 []) (tokenize document.print)).outcome =
            .ok (document, [])) ∧
      ∀ document : Document, (∃ text, parseDocument text maxDepth = .ok document) ↔
        document.Canonical ∧ document.NestsWithin maxDepth := by
  have image (text : String) (document : Document)
      (read : parseDocument text maxDepth = .ok document) :
      document.Canonical ∧ document.NestsWithin maxDepth := by
    rw [parseDocument] at read
    cases parsed : Parser.document (Parser.mk maxDepth 0 1 []) (tokenize text) with
    | error e q => rw [parsed] at read; cases read
    | ok document' q =>
      rw [parsed] at read
      cases read
      exact Parser.document_canonical (tokenize_spec text).2 parsed
  have roundTrip (document : Document) (canonical : document.Canonical)
      (fits : document.NestsWithin maxDepth) :
      parseDocument document.print maxDepth = .ok document ∧
        (Parser.document (Parser.mk maxDepth 0 1 []) (tokenize document.print)).outcome =
          .ok (document, []) := by
    have outcome := canonical.document_tokens fits
    rw [← canonical.tokenize_print] at outcome
    refine ⟨?_, outcome⟩
    rw [parseDocument, Reading.toExcept_eq_map_outcome, outcome]
    rfl
  refine ⟨image, roundTrip, fun document => ⟨?_, ?_⟩⟩
  · rintro ⟨text, read⟩
    exact image text document read
  · rintro ⟨canonical, fits⟩
    exact ⟨document.print, (roundTrip document canonical fits).1⟩

/-- Stray braces beside a command, marks and numerals next to one another, blanks at
the edge of an argument list, and empty paragraphs at either end. -/
theorem parseDocument_canonical_roundTrip_braces :
    let document := Document.mk [⟨[]⟩, ⟨[.text "\x7d", .text "$", .text "5", .text "\x7b",
      .command "b" [.space, .command "i" [], .text "\x7b", .text "x$", .space], .text "y"]⟩, ⟨[]⟩]
    document.Canonical ∧ document.NestsWithin 2 ∧
      document.print = " \n\n\x7d$5\x7b\\b\x7b \\i\x7b\x7d\x7bx$ \x7dy\n\n " ∧
      parseDocument document.print 2 = .ok document := by
  refine ⟨by decide, by decide, by decide, ?_⟩
  exact ((parseDocument_canonical_roundTrip 2).2.1 _ (by decide) (by decide)).1

end TexMarkup
