/-!
# Trees of markup

A paragraph is a list of nodes: texts, spaces and commands, which hold nodes of
their own. A document is a list of paragraphs.

## Main definitions

* `Node`, `Paragraph`, `Document`.
* `Node.textContent`, `Node.depth`, `Node.size`.
-/

namespace TexMarkup

/-- A node of a paragraph. -/
inductive Node where
  /-- Literal text. -/
  | text (content : String)
  /-- A run of blanks; which blanks they were is forgotten. -/
  | space
  /-- A command with what stood between its braces. -/
  | command (name : String) (children : List Node)
  deriving Inhabited

namespace Node

mutual

/-- Whether two nodes are equal. -/
def decEq : (a b : Node) → Decidable (a = b)
  | text a, text b => decidable_of_iff (a = b) (text.injEq a b).to_iff.symm
  | space, space => isTrue rfl
  | command a as, command b bs =>
    match decEqList as bs with
    | isTrue h => decidable_of_iff (a = b) (by simp [h])
    | isFalse h => isFalse (by simp [h])
  | text _, space => isFalse (by simp)
  | text _, command _ _ => isFalse (by simp)
  | space, text _ => isFalse (by simp)
  | space, command _ _ => isFalse (by simp)
  | command _ _, text _ => isFalse (by simp)
  | command _ _, space => isFalse (by simp)

/-- Whether two lists of nodes are equal. -/
def decEqList : (as bs : List Node) → Decidable (as = bs)
  | [], [] => isTrue rfl
  | [], _ :: _ => isFalse (by simp)
  | _ :: _, [] => isFalse (by simp)
  | a :: as, b :: bs =>
    match decEq a b, decEqList as bs with
    | isTrue h, isTrue hs => isTrue (by rw [h, hs])
    | isFalse h, _ => isFalse (by simp [h])
    | _, isFalse hs => isFalse (by simp [hs])

end

instance : DecidableEq Node := decEq

/-- Whether the node is a space. -/
def isSpace : Node → Bool
  | space => true
  | _ => false

/-- The content of a text. -/
def asText? : Node → Option String
  | text content => some content
  | _ => none

/-- The name of a command. -/
def commandName? : Node → Option String
  | command name _ => some name
  | _ => none

mutual

/-- The plain text below a node; command names are no part of it. -/
def textContent : Node → String
  | text content => content
  | space => " "
  | command _ children => textContentList children

/-- The plain text below the nodes of a list, from left to right. -/
def textContentList : List Node → String
  | [] => ""
  | node :: nodes => node.textContent ++ textContentList nodes

end

mutual

/-- How many commands lie inside one another below a node; a command without
children counts one. -/
def depth : Node → Nat
  | command _ children => depthList children + 1
  | _ => 0

/-- The greatest depth in a list of nodes. -/
def depthList : List Node → Nat
  | [] => 0
  | node :: nodes => max node.depth (depthList nodes)

end

mutual

/-- The number of nodes of a tree, its root included. -/
def size : Node → Nat
  | command _ children => sizeList children + 1
  | _ => 1

/-- The number of nodes of a list of trees. -/
def sizeList : List Node → Nat
  | [] => 0
  | node :: nodes => node.size + sizeList nodes

end

theorem sizeList_append (a b : List Node) : sizeList (a ++ b) = sizeList a + sizeList b := by
  induction a with
  | nil => simp [sizeList]
  | cons node nodes ih => simp [sizeList, ih, Nat.add_assoc]

end Node

/-- The nodes of one block of text between blank lines. -/
structure Paragraph where
  /-- The nodes in source order. -/
  nodes : List Node
  deriving DecidableEq, Inhabited

/-- The paragraphs of a text in source order. -/
structure Document where
  /-- The paragraphs, empty ones included. -/
  paragraphs : List Paragraph
  deriving DecidableEq, Inhabited

end TexMarkup
