import TexMarkup.Command.Table
import TexMarkup.Node.Walk

/-!
# What a walk meets

The walk of a list of trees is that of each tree after the other, and the walk of a
command goes on below it. So it meets every node that there is.

## Main definitions

* `Node.NamesUser`: a reference to a user.

## Main results

* `Node.walk_append`, `Node.walk_command`, `Node.mem_walk`: the walks of lists and of commands.
-/

namespace TexMarkup

/-- The node is a reference to a user of this name: the first text among its children
is the name. -/
def Node.NamesUser (node : Node) (user : String) : Prop :=
  ∃ name children, node = .command name children ∧ lookupCommand name = some .user ∧
    children.findSome? Node.asText? = some user

namespace Node

theorem walk_append (nodes nodes' : List Node) :
    walk (nodes ++ nodes') = walk nodes ++ walk nodes' := by
  fun_induction walk nodes with
  | case1 => rfl
  | case2 name children stack ih =>
    rw [List.cons_append, walk, ← List.append_assoc, ih, List.cons_append]
  | case3 content stack ih => rw [List.cons_append, walk, ih, List.cons_append]
  | case4 stack ih => rw [List.cons_append, walk, ih, List.cons_append]

theorem walk_cons (node : Node) (nodes : List Node) :
    walk (node :: nodes) = walk [node] ++ walk nodes :=
  walk_append [node] nodes

theorem walk_command (name : String) (children : List Node) :
    walk [.command name children] = .command name children :: walk children := by
  rw [walk, List.append_nil]

/-- The walk of a list goes through each of its trees. -/
theorem mem_walk {node inner : Node} {nodes : List Node} (mem : node ∈ nodes)
    (below : inner ∈ walk [node]) : inner ∈ walk nodes := by
  obtain ⟨before, after, rfl⟩ := List.append_of_mem mem
  rw [walk_append, walk_cons node after]
  exact List.mem_append_right _ (List.mem_append_left _ below)

end Node

theorem Document.walk_cons (paragraph : Paragraph) (paragraphs : List Paragraph) :
    Document.walk ⟨paragraph :: paragraphs⟩ =
      Node.walk paragraph.nodes ++ Document.walk ⟨paragraphs⟩ :=
  Node.walk_append _ _

end TexMarkup
