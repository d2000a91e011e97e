import TexMarkup.Node

/-!
# Visiting every node

The walk of a document visits its nodes depth first and from left to right. It
keeps the nodes still to be visited on a stack and puts the children of a
command on top when it meets the command.

## Main definitions

* `Node.walk`: the visiting order of the nodes on a stack.
* `Document.walk`: the visiting order of a document.
-/

namespace TexMarkup

/-- The order in which the nodes on the stack and everything below them are
visited; the top of the stack is the head of the list. -/
def Node.walk : List Node → List Node
  | [] => []
  | .command name children :: stack =>
    .command name children :: Node.walk (children ++ stack)
  | .text content :: stack => .text content :: Node.walk stack
  | .space :: stack => .space :: Node.walk stack
termination_by stack => Node.sizeList stack
decreasing_by
  all_goals simp only [Node.sizeList, Node.sizeList_append, Node.size]; omega

/-- Every node of a document, depth first. -/
def Document.walk (document : Document) : List Node :=
  Node.walk (document.paragraphs.flatMap Paragraph.nodes)

end TexMarkup
