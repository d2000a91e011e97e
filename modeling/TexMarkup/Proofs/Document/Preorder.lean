import TexMarkup.Node.Walk

/-!
# The walk is the pre-order

A walk keeps the nodes that are still to be visited on a stack. The next one is the last of
the stack, so the children of a command are put on it from the last one back, and so are the
paragraphs and their nodes at the beginning. What is visited is the pre-order, as if
the trees were gone through by recursion: each node stands in front of what is below it, and
everything below it in front of its next sibling.

A node is told from an equal one by its place: the number of its paragraph, its number in the
paragraph and, on the way down to it, the number of every child. The places of a pre-order are
in the order of a dictionary.

## Main definitions

* `Node.preorder`, `Document.preorder`: the pre-order by recursion.
* `Node.visit?`, `Document.stack`, `Visits`: one visit after the other, from a stack.
* `Node.places`, `Document.places`, `Document.at?`: the places of nodes, and the node at a place.

## Main results

* `Node.walk_eq_preorder`: what is left on a stack is visited in pre-order.
* `visits_walk`: the visits from a stack are those of the walk.
* `Document.mem_places`, `Document.places_pairwise`: the places of a document.
* `Document.walk_preorder`: the walk of a document.
-/

namespace TexMarkup

/-! ## The pre-order -/

namespace Node

/-- The nodes right below a node. -/
def children : Node → List Node
  | command _ children => children
  | _ => []

mutual

/-- A node and everything below it, each node in front of its children. -/
def preorder : Node → List Node
  | command name children => command name children :: preorderList children
  | text content => [text content]
  | space => [space]

/-- The trees of a list, one after the other. -/
def preorderList : List Node → List Node
  | [] => []
  | node :: nodes => node.preorder ++ preorderList nodes

end

/-- A node comes in front of everything in it. -/
theorem preorder_eq (node : Node) : node.preorder = node :: preorderList node.children := by
  cases node <;> rfl

theorem preorderList_append (nodes nodes' : List Node) :
    preorderList (nodes ++ nodes') = preorderList nodes ++ preorderList nodes' := by
  induction nodes with
  | nil => rfl
  | cons node nodes ih => rw [List.cons_append, preorderList, preorderList, ih, List.append_assoc]

theorem preorderList_eq_flatMap (nodes : List Node) :
    preorderList nodes = nodes.flatMap preorder := by
  induction nodes with
  | nil => rfl
  | cons node nodes ih => rw [preorderList, ih, List.flatMap_cons]

mutual

/-- The pre-order lists as many nodes as there are. -/
theorem length_preorder : (node : Node) → node.preorder.length = node.size
  | text _ | space => rfl
  | command _ children => by
    rw [preorder, List.length_cons, length_preorderList children, size]

theorem length_preorderList : (nodes : List Node) → (preorderList nodes).length = sizeList nodes
  | [] => rfl
  | node :: nodes => by
    rw [preorderList, List.length_append, length_preorder node, length_preorderList nodes, sizeList]

end

/-- What is left on a stack is visited in pre-order. -/
theorem walk_eq_preorder (stack : List Node) : walk stack = preorderList stack := by
  fun_induction walk stack with
  | case1 => rfl
  | case2 name children stack ih =>
    rw [ih, preorderList_append, preorderList, preorder, List.cons_append]
  | case3 content stack ih => rw [ih, preorderList, preorder, List.singleton_append]
  | case4 stack ih => rw [ih, preorderList, preorder, List.singleton_append]

end Node

/-- The nodes of a document, paragraph by paragraph, in pre-order. -/
def Document.preorder (document : Document) : List Node :=
  document.paragraphs.flatMap fun paragraph => Node.preorderList paragraph.nodes

/-- The number of nodes of a document. -/
def Document.size (document : Document) : Nat :=
  Node.sizeList (document.paragraphs.flatMap Paragraph.nodes)

/-- Paragraphs do not matter to the order of the nodes in them. -/
theorem Document.preorder_eq (document : Document) :
    document.preorder = Node.preorderList (document.paragraphs.flatMap Paragraph.nodes) := by
  simp only [preorder, Node.preorderList_eq_flatMap, List.flatMap_assoc]

theorem Document.length_preorder (document : Document) :
    document.preorder.length = document.size := by
  rw [preorder_eq, Node.length_preorderList, size]

/-! ## One visit after the other -/

/-- A visit takes the last node off the stack and puts its children there, the last one first. -/
def Node.visit? (stack : List Node) : Option (Node × List Node) :=
  stack.getLast?.map fun node => (node, stack.dropLast ++ node.children.reverse)

/-- The stack with which the walk of a document begins: its paragraphs from the last one back,
and in each of them the nodes from the last one back. -/
def Document.stack (document : Document) : List Node :=
  document.paragraphs.reverse.flatMap fun paragraph => paragraph.nodes.reverse

/-- From the stack these nodes are visited, and then the stack is empty. -/
inductive Visits : List Node → List Node → Prop
  | done {stack : List Node} : Node.visit? stack = none → Visits stack []
  | next {stack stack' nodes : List Node} {node : Node} :
    Node.visit? stack = some (node, stack') → Visits stack' nodes → Visits stack (node :: nodes)

variable {stack nodes nodes' : List Node}

/-- From a stack only one sequence of nodes can be visited. -/
theorem Visits.unique (h : Visits stack nodes) (h' : Visits stack nodes') : nodes = nodes' := by
  induction h generalizing nodes' with
  | done ended =>
    cases h' with
    | done => rfl
    | next visited => cases ended.symm.trans visited
  | next visited _ ih =>
    cases h' with
    | done ended => cases ended.symm.trans visited
    | next visited' rest =>
      cases visited.symm.trans visited'
      rw [ih rest]

/-- The last node of the stack is visited, and its children are put on top in reversed order. -/
theorem Node.visit?_reverse (node : Node) (nodes : List Node) :
    visit? (node :: nodes).reverse = some (node, (node.children ++ nodes).reverse) := by
  simp [visit?]

/-- The walk is over after so many visits as it has nodes, and it has met them in this order.
The stack is that of the walk from the last node back. -/
theorem visits_walk (nodes : List Node) : Visits nodes.reverse (Node.walk nodes) := by
  fun_induction Node.walk nodes with
  | case1 => exact .done rfl
  | case2 name children nodes ih => exact .next (Node.visit?_reverse _ nodes) ih
  | case3 content nodes ih => exact .next (Node.visit?_reverse _ nodes) ih
  | case4 nodes ih => exact .next (Node.visit?_reverse _ nodes) ih

/-- At first the nodes outside of all commands lie on the stack, the first one on top. -/
theorem Document.stack_eq (document : Document) :
    document.stack = (document.paragraphs.flatMap Paragraph.nodes).reverse := by
  rw [stack, List.reverse_flatMap]
  rfl

/-! ## Places -/

/-- The places in items that stand side by side, each with the number of its item in front. -/
def numbered : List (List (List Nat)) → List (List Nat)
  | [] => []
  | places :: rest => places.map (0 :: ·) ++ (numbered rest).map (List.modifyHead (· + 1))

mutual

/-- The places of the nodes of a tree in pre-order. That of its root is empty. -/
def Node.places : Node → List (List Nat)
  | .command _ children => [] :: numbered (placesList children)
  | .text _ => [[]]
  | .space => [[]]

/-- The places of the nodes in each tree of a list. -/
def Node.placesList : List Node → List (List (List Nat))
  | [] => []
  | node :: nodes => node.places :: placesList nodes

end

/-- The places of the nodes of a paragraph in pre-order. -/
def Paragraph.places (paragraph : Paragraph) : List (List Nat) :=
  numbered (Node.placesList paragraph.nodes)

/-- The places of the nodes of a document in pre-order. -/
def Document.places (document : Document) : List (List Nat) :=
  numbered (document.paragraphs.map Paragraph.places)

/-- The node at a place below a node. -/
def Node.at? : Node → List Nat → Option Node
  | node, [] => some node
  | node, i :: place => node.children[i]?.bind fun child => child.at? place

/-- The node at a place in a paragraph. -/
def Paragraph.at? (paragraph : Paragraph) : List Nat → Option Node
  | i :: place => paragraph.nodes[i]?.bind fun node => node.at? place
  | [] => none

/-- The node at a place in a document. -/
def Document.at? (document : Document) : List Nat → Option Node
  | i :: place => document.paragraphs[i]?.bind fun paragraph => paragraph.at? place
  | [] => none

variable {groups : List (List (List Nat))} {place : List Nat}

/-- A place in numbered groups begins with the number of its group. -/
theorem mem_numbered : place ∈ numbered groups ↔
    ∃ i below, place = i :: below ∧ ∃ inside, groups[i]? = some inside ∧ below ∈ inside := by
  induction groups generalizing place with
  | nil => simp [numbered]
  | cons first rest ih =>
    rw [numbered, List.mem_append, List.mem_map, List.mem_map]
    constructor
    · rintro (⟨below, mem, rfl⟩ | ⟨later, mem, rfl⟩)
      · exact ⟨0, below, rfl, first, rfl, mem⟩
      · obtain ⟨i, below, rfl, inside, found, mem⟩ := ih.mp mem
        exact ⟨i + 1, below, rfl, inside, found, mem⟩
    · rintro ⟨_ | i, below, rfl, inside, found, mem⟩
      · cases found
        exact .inl ⟨below, mem, rfl⟩
      · exact .inr ⟨i :: below, ih.mpr ⟨i, below, rfl, inside, found, mem⟩, rfl⟩

theorem nil_not_mem_numbered : [] ∉ numbered groups := by
  intro mem
  obtain ⟨i, below, same, -⟩ := mem_numbered.mp mem
  cases same

theorem cons_mem_numbered {i : Nat} : i :: place ∈ numbered groups ↔
    ∃ inside, groups[i]? = some inside ∧ place ∈ inside := by
  rw [mem_numbered]
  constructor
  · rintro ⟨i', below, same, found⟩
    cases same
    exact found
  · exact fun found => ⟨i, place, rfl, found⟩

/-- Items that stand side by side have their places in order if each of them has. -/
theorem numbered_pairwise (inOrder : ∀ inside ∈ groups, inside.Pairwise (· < ·)) :
    (numbered groups).Pairwise (· < ·) := by
  induction groups with
  | nil => exact .nil
  | cons first rest ih =>
    obtain ⟨ofFirst, ofRest⟩ := List.forall_mem_cons.mp inOrder
    rw [numbered, List.pairwise_append, List.pairwise_map, List.pairwise_map]
    refine ⟨ofFirst.imp fun less => ?_, (ih ofRest).imp_of_mem fun {a b} memA memB less => ?_, ?_⟩
    · exact List.cons_lt_cons_iff.mpr (.inr ⟨rfl, less⟩)
    · obtain ⟨i, below, rfl, -⟩ := mem_numbered.mp memA
      obtain ⟨i', below', rfl, -⟩ := mem_numbered.mp memB
      simpa [List.cons_lt_cons_iff] using less
    · intro a memA b memB
      obtain ⟨below, -, rfl⟩ := List.mem_map.mp memA
      obtain ⟨later, mem, rfl⟩ := List.mem_map.mp memB
      obtain ⟨i, below', rfl, -⟩ := mem_numbered.mp mem
      exact List.cons_lt_cons_iff.mpr (.inl (Nat.succ_pos i))

section Items

variable {α : Type} {placesOf : α → List (List Nat)} {items : List α}

/-- Something is found below an item just at the places of the item. -/
theorem cons_mem_numbered_map {i : Nat} {find : α → Option Node}
    (found : ∀ item, place ∈ placesOf item ↔ (find item).isSome = true) :
    i :: place ∈ numbered (items.map placesOf) ↔ (items[i]?.bind find).isSome = true := by
  rw [cons_mem_numbered, List.getElem?_map]
  cases items[i]? with
  | none => simp
  | some item => simp [found]

/-- The nodes at the places in items that stand side by side are those of each item. -/
theorem map_numbered {at? : List Nat → Option Node} {inside : α → List Nat → Option Node}
    (below : ∀ i place, at? (i :: place) = items[i]?.bind fun item => inside item place) :
    (numbered (items.map placesOf)).map at? =
      items.flatMap fun item => (placesOf item).map (inside item) := by
  induction items generalizing at? with
  | nil => rfl
  | cons item items ih =>
    have later : (numbered (items.map placesOf)).map (at? ∘ List.modifyHead (· + 1)) =
        items.flatMap fun item => (placesOf item).map (inside item) :=
      ih fun i place => below (i + 1) place
    rw [List.map_cons, numbered, List.map_append, List.map_map, List.map_map, later,
      List.flatMap_cons]
    refine congrArg (· ++ _) (List.map_congr_left fun place _ => ?_)
    exact below 0 place

end Items

namespace Node

theorem placesList_eq_map (nodes : List Node) : placesList nodes = nodes.map places := by
  induction nodes with
  | nil => rfl
  | cons node nodes ih => rw [placesList, ih, List.map_cons]

/-- The places in a node are its own, which is empty, and those in its children behind their
numbers. -/
theorem places_eq (node : Node) : node.places = [] :: numbered (node.children.map places) := by
  cases node with
  | command name children => rw [Node.places, placesList_eq_map, Node.children]
  | _ => rfl

/-- A tree has exactly one node at each of its places. -/
theorem mem_places (node : Node) (place : List Nat) :
    place ∈ node.places ↔ (node.at? place).isSome = true := by
  induction place generalizing node with
  | nil => simp [places_eq, Node.at?]
  | cons i place ih =>
    rw [places_eq, List.mem_cons, Node.at?, cons_mem_numbered_map fun child => ih child,
      or_iff_right (List.cons_ne_nil _ _)]

mutual

/-- The places in a node are listed in dictionary order. -/
theorem places_pairwise : (node : Node) → node.places.Pairwise (· < ·)
  | text _ | space => List.pairwise_singleton _ _
  | command _ children => by
    rw [Node.places, List.pairwise_cons]
    refine ⟨fun place mem => ?_, numbered_pairwise (placesList_pairwise children)⟩
    obtain ⟨i, below, rfl, -⟩ := mem_numbered.mp mem
    exact List.nil_lt_cons _ _

theorem placesList_pairwise : (nodes : List Node) →
    ∀ inside ∈ placesList nodes, inside.Pairwise (· < ·)
  | [] => nofun
  | node :: nodes => List.forall_mem_cons.mpr ⟨places_pairwise node, placesList_pairwise nodes⟩

end

mutual

/-- At the places of a node stand the nodes of its pre-order. -/
theorem map_places : (node : Node) → node.places.map node.at? = node.preorder.map some
  | text _ | space => rfl
  | command name children => by
    rw [Node.places, placesList_eq_map, List.map_cons, map_numbered (fun _ _ => rfl), preorder,
      List.map_cons, Node.at?, map_placesList children]

theorem map_placesList : (nodes : List Node) →
    (nodes.flatMap fun node => node.places.map node.at?) = (preorderList nodes).map some
  | [] => rfl
  | node :: nodes => by
    rw [List.flatMap_cons, map_places node, map_placesList nodes, preorderList, List.map_append]

end

end Node

namespace Paragraph

variable (paragraph : Paragraph)

/-- The places of a paragraph are those at which a node stands. -/
theorem mem_places (place : List Nat) :
    place ∈ paragraph.places ↔ (paragraph.at? place).isSome = true := by
  rw [places, Node.placesList_eq_map]
  match place with
  | [] => exact iff_of_false nil_not_mem_numbered Bool.false_ne_true
  | i :: place => exact cons_mem_numbered_map fun node => node.mem_places place

theorem map_places :
    paragraph.places.map paragraph.at? = (Node.preorderList paragraph.nodes).map some := by
  rw [places, Node.placesList_eq_map, map_numbered (fun _ _ => rfl), Node.map_placesList]

end Paragraph

namespace Document

variable (document : Document)

/-- A document has exactly one node at each of its places. -/
theorem mem_places (place : List Nat) :
    place ∈ document.places ↔ (document.at? place).isSome = true := by
  match place with
  | [] => exact iff_of_false nil_not_mem_numbered Bool.false_ne_true
  | i :: place => exact cons_mem_numbered_map fun paragraph => paragraph.mem_places place

theorem places_pairwise : document.places.Pairwise (· < ·) := by
  refine numbered_pairwise fun inside mem => ?_
  obtain ⟨paragraph, -, rfl⟩ := List.mem_map.mp mem
  exact numbered_pairwise (Node.placesList_pairwise paragraph.nodes)

/-- The nodes at the places of a document are those of its pre-order. -/
theorem map_places : document.places.map document.at? = document.preorder.map some := by
  rw [places, map_numbered (fun _ _ => rfl), preorder, List.map_flatMap]
  exact congrArg (document.paragraphs.flatMap ·) (funext Paragraph.map_places)

/-- The walk of a document is its pre-order. From the stack of the document each visit takes the
last node and puts its children there, and this comes to an end when just the pre-order has been
visited, which has as many nodes as the document. The places of what is visited are all the
places of the document, each of them once, and they ascend: a node stands in front of everything
below it, and everything below it in front of its next sibling. -/
theorem walk_preorder :
    (∀ nodes, Visits document.stack nodes ↔ nodes = document.walk) ∧
      document.walk = document.preorder ∧ document.walk.length = document.size ∧
      document.walk.map some = document.places.map document.at? ∧
      (∀ place, place ∈ document.places ↔ (document.at? place).isSome = true) ∧
      document.places.Pairwise (· < ·) := by
  have walked : document.walk = document.preorder :=
    (Node.walk_eq_preorder _).trans document.preorder_eq.symm
  have visited : Visits document.stack document.walk := by
    rw [stack_eq]
    exact visits_walk _
  refine ⟨fun nodes => ⟨fun h => h.unique visited, fun same => same ▸ visited⟩, walked, ?_, ?_,
    document.mem_places, document.places_pairwise⟩
  · rw [walked, length_preorder]
  · rw [walked, map_places]

/-- Equal texts in and behind a command are told apart by their places. -/
example :
    let document : Document := ⟨[⟨[.command "b" [.text "x"], .text "x"]⟩, ⟨[.text "x"]⟩]⟩
    document.walk = [.command "b" [.text "x"], .text "x", .text "x", .text "x"] ∧
      document.places = [[0, 0], [0, 0, 0], [0, 1], [1, 0]] := by
  decide +kernel

end Document

end TexMarkup
