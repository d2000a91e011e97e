import TexMarkup.Parser
import TexMarkup.Proofs.Token.Canonical

/-!
# Canonical documents and how they are written

A document is canonical when its texts are texts of tokens, no two neighbours in
it would be read as one, and the edges of its paragraphs are not blank. Printing
writes every command with braces, so a canonical document can be read again.

## Main definitions

* `Node.print`, `Paragraph.print`, `Document.print`: documents as text.
* `TextContent`, `Node.MayPrecede`, `Node.Canonical`: canonical trees.
* `Paragraph.Canonical`, `Document.Canonical`: canonical documents.
* `Document.NestsWithin`: documents under a nesting limit.

## Main results

* `Node.canonicalList_iff`: canonical lists, node by node and neighbour by neighbour.
* `Node.depthList_le_iff`: the depth of a list is that of its deepest node.
-/

namespace TexMarkup

/-! ## Printing -/

mutual

/-- The text of a tree. Every command is written with braces. -/
def Node.print : Node → String
  | .text content => content
  | .space => " "
  | .command name children => "\\" ++ name ++ "\x7b" ++ Node.printList children ++ "\x7d"

/-- The text of the trees of a list, from left to right. -/
def Node.printList : List Node → String
  | [] => ""
  | node :: nodes => node.print ++ Node.printList nodes

end

/-- The text of a paragraph. A blank keeps the lines around an empty one apart. -/
def Paragraph.print (paragraph : Paragraph) : String :=
  if paragraph.nodes = [] then " " else Node.printList paragraph.nodes

/-- The text of a document, with a blank line between paragraphs. -/
def Document.print (document : Document) : String :=
  "\n\n".intercalate (document.paragraphs.map Paragraph.print)

/-! ## Canonical trees -/

/-- A text that is read up to the next blank, brace or backslash. -/
def WordLike (s : String) : Prop :=
  WordText s.toList ∨ Numeral s.toList

/-- The texts of tokens that become text, inside of a command or outside of all. -/
def TextContent (inside : Bool) (s : String) : Prop :=
  WordLike s ∨ (∃ c ∈ textMarks, s = String.singleton c) ∨ s = "\x7b" ∨
    (inside = false ∧ s = "\x7d")

namespace Node

/-- Whether two nodes side by side are read as two nodes. -/
def MayPrecede : Node → Node → Prop
  | space, space => False
  | text s, text s' => WordLike s → s' = "\x7b" ∨ s' = "\x7d"
  | _, _ => True

mutual

/-- Whether a tree can stand inside of a command, or outside of all. -/
def Canonical (inside : Bool) : Node → Prop
  | text content => TextContent inside content
  | space => True
  | command name children => WordText name.toList ∧ CanonicalList true children

/-- Whether the trees of a list can stand there side by side. -/
def CanonicalList (inside : Bool) : List Node → Prop
  | [] => True
  | node :: nodes =>
    node.Canonical inside ∧ (∀ next ∈ nodes.head?, node.MayPrecede next) ∧
      CanonicalList inside nodes

end

end Node

/-- A canonical list of nodes without spaces at its edges. -/
def Paragraph.Canonical (paragraph : Paragraph) : Prop :=
  Node.CanonicalList false paragraph.nodes ∧ paragraph.nodes.head? ≠ some .space ∧
    paragraph.nodes.getLast? ≠ some .space

/-- At least one paragraph, and only canonical ones. -/
def Document.Canonical (document : Document) : Prop :=
  document.paragraphs ≠ [] ∧ ∀ paragraph ∈ document.paragraphs, paragraph.Canonical

/-- No node of the document is deeper than the limit. -/
def Document.NestsWithin (document : Document) (maxDepth : Nat) : Prop :=
  ∀ paragraph ∈ document.paragraphs, ∀ node ∈ paragraph.nodes, node.depth ≤ maxDepth

instance (s : String) : Decidable (WordLike s) :=
  inferInstanceAs (Decidable (_ ∨ _))

instance (inside : Bool) (s : String) : Decidable (TextContent inside s) :=
  inferInstanceAs (Decidable (_ ∨ _ ∨ _ ∨ _))

instance : DecidableRel Node.MayPrecede := fun node next => by
  unfold Node.MayPrecede
  split <;> infer_instance

mutual

/-- Whether a tree is canonical. -/
def Node.decCanonical (inside : Bool) : (node : Node) → Decidable (node.Canonical inside)
  | .text content => inferInstanceAs (Decidable (TextContent inside content))
  | .space => isTrue trivial
  | .command _ children =>
    have := Node.decCanonicalList true children
    inferInstanceAs (Decidable (_ ∧ _))

/-- Whether a list of trees is canonical. -/
def Node.decCanonicalList (inside : Bool) :
    (nodes : List Node) → Decidable (Node.CanonicalList inside nodes)
  | [] => isTrue trivial
  | node :: nodes =>
    have := node.decCanonical inside
    have := Node.decCanonicalList inside nodes
    inferInstanceAs (Decidable (_ ∧ _ ∧ _))

end

instance (inside : Bool) (nodes : List Node) : Decidable (Node.CanonicalList inside nodes) :=
  Node.decCanonicalList inside nodes

instance : DecidablePred Paragraph.Canonical :=
  fun _ => inferInstanceAs (Decidable (_ ∧ _ ∧ _))

instance : DecidablePred Document.Canonical :=
  fun _ => inferInstanceAs (Decidable (_ ∧ _))

instance (document : Document) (maxDepth : Nat) : Decidable (document.NestsWithin maxDepth) :=
  inferInstanceAs (Decidable (∀ _ ∈ _, ∀ _ ∈ _, _))

namespace Node

variable {inside : Bool} {node : Node} {nodes nodes' : List Node}

/-! ## Lists of trees -/

theorem canonicalList_iff : CanonicalList inside nodes ↔
    (∀ node ∈ nodes, node.Canonical inside) ∧ nodes.IsChain MayPrecede := by
  induction nodes with
  | nil => simp [CanonicalList]
  | cons node nodes ih =>
    rw [CanonicalList, ih, List.isChain_cons, List.forall_mem_cons]
    tauto

theorem canonicalList_concat : CanonicalList inside (nodes ++ [node]) ↔
    CanonicalList inside nodes ∧ node.Canonical inside ∧
      ∀ last ∈ nodes.getLast?, last.MayPrecede node := by
  simp only [canonicalList_iff, List.isChain_append, List.forall_mem_append, List.mem_singleton,
    forall_eq, List.isChain_singleton, List.head?_cons, Option.mem_def, Option.some.injEq,
    forall_eq', true_and]
  tauto

theorem CanonicalList.of_isInfix (h : CanonicalList inside nodes) (part : nodes' <:+: nodes) :
    CanonicalList inside nodes' := by
  rw [canonicalList_iff] at h ⊢
  exact ⟨fun node mem => h.1 node (part.subset mem), List.IsChain.infix h.2 part⟩

theorem depthList_le_iff {limit : Nat} :
    depthList nodes ≤ limit ↔ ∀ node ∈ nodes, node.depth ≤ limit := by
  induction nodes with
  | nil => simp [depthList]
  | cons node nodes ih => rw [depthList, Nat.max_le, ih, List.forall_mem_cons]

theorem depth_le_depthList (mem : node ∈ nodes) : node.depth ≤ depthList nodes :=
  depthList_le_iff.mp (Nat.le_refl _) node mem

end Node

end TexMarkup
