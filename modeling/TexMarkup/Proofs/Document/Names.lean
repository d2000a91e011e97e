import Mathlib.Data.List.TakeWhile
import TexMarkup.Proofs.Document.Walk
import TexMarkup.Proofs.Parser.Trace

/-!
# The commands in a document

A walk through a document meets the commands in the order in which their backslashes
stand in the source, wherever lists are closed, left open or not opened at all. Every
backslash that is read makes one command, and around it are the commands whose lists are
open in front of the backslash.

## Main definitions

* `Node.levels`: a walk that counts the commands around each node.
* `Node.commands`, `Document.commands`, `Document.names`: the commands that a walk meets.
* `commandStarts`: the backslashes with a word after them.
* `Start.level`: how many lists are open where a command begins.

## Main results

* `Node.levelsList_map_fst`: the counting walk meets what the walk meets.
* `Parser.document_commands`, `Parser.document_names`: the commands in a document are those
  in its source.
-/

namespace TexMarkup

/-- Where a word follows a backslash, from left to right. What has been read before is
given from the last token back. -/
def commandStarts (read : List Token) : List Token → List Start
  | .backslash :: .word name :: ts =>
    ⟨read.reverse, name⟩ :: commandStarts (.backslash :: read) (.word name :: ts)
  | t :: ts => commandStarts (t :: read) ts
  | [] => []

/-- How many argument lists are open where the command begins. -/
def Start.level (start : Start) : Nat :=
  (openLists start.before.reverse).length

namespace Node

mutual

/-- The walk through a tree in which each node comes with the number of commands around it;
so many are around the tree. -/
def levels (above : Nat) : Node → List (Node × Nat)
  | command name children => (command name children, above) :: levelsList (above + 1) children
  | text content => [(text content, above)]
  | space => [(space, above)]

/-- The walk through trees in which each node comes with the number of commands around it. -/
def levelsList (above : Nat) : List Node → List (Node × Nat)
  | [] => []
  | node :: nodes => node.levels above ++ levelsList above nodes

end

/-- The names of the commands that a walk through trees meets, each with the number of
commands around it. -/
def commands (above : Nat) (nodes : List Node) : List (String × Nat) :=
  (levelsList above nodes).filterMap fun visit =>
    visit.1.commandName?.map fun name => (name, visit.2)

variable {node : Node} {nodes : List Node} {above : Nat}

/-! ## Levels -/

theorem levelsList_append (above : Nat) (nodes nodes' : List Node) :
    levelsList above (nodes ++ nodes') = levelsList above nodes ++ levelsList above nodes' := by
  induction nodes with
  | nil => rfl
  | cons node nodes ih => rw [List.cons_append, levelsList, levelsList, ih, List.append_assoc]

mutual

/-- The counting walk through a tree meets the nodes of the walk. -/
theorem levels_map_fst (above : Nat) :
    (node : Node) → (node.levels above).map Prod.fst = walk [node]
  | text content => by rw [walk, walk]; rfl
  | space => by rw [walk, walk]; rfl
  | command name children => by
    rw [levels, List.map_cons, levelsList_map_fst (above + 1) children, walk_command]

/-- The walk that counts meets what the walk meets, in the same order. -/
theorem levelsList_map_fst (above : Nat) :
    (nodes : List Node) → (levelsList above nodes).map Prod.fst = walk nodes
  | [] => by rw [walk]; rfl
  | node :: nodes => by
    rw [levelsList, List.map_append, levels_map_fst above node, levelsList_map_fst above nodes,
      ← walk_cons]

end

/-! ## Commands -/

@[simp] theorem commands_nil (above : Nat) : commands above [] = [] := rfl

theorem commands_append (above : Nat) (nodes nodes' : List Node) :
    commands above (nodes ++ nodes') = commands above nodes ++ commands above nodes' := by
  rw [commands, levelsList_append, List.filterMap_append, commands, commands]

theorem commands_cons (above : Nat) (node : Node) (nodes : List Node) :
    commands above (node :: nodes) = commands above [node] ++ commands above nodes :=
  commands_append above [node] nodes

/-- A command comes first, and those in it lie one level deeper. -/
theorem commands_command (above : Nat) (name : String) (children : List Node) :
    commands above [.command name children] = (name, above) :: commands (above + 1) children := by
  rw [commands, levelsList, levelsList, List.append_nil, levels]
  rfl

theorem commands_text (above : Nat) (content : String) : commands above [.text content] = [] := rfl

theorem commands_space (above : Nat) : commands above [.space] = [] := rfl

/-- Without the numbers the commands are those of the walk. -/
theorem commands_map_fst (above : Nat) (nodes : List Node) :
    (commands above nodes).map Prod.fst = (walk nodes).filterMap commandName? := by
  rw [← levelsList_map_fst above nodes, commands, List.map_filterMap, List.filterMap_map]
  refine congrArg (List.filterMap · _) (funext fun visit => ?_)
  cases named : visit.1.commandName? <;> simp [named]

/-- There are no commands in spaces. -/
theorem commands_of_isSpace (spaces : ∀ node ∈ nodes, node.isSpace = true) :
    commands above nodes = [] := by
  induction nodes with
  | nil => rfl
  | cons node nodes ih =>
    have first := spaces node List.mem_cons_self
    cases node with
    | space =>
      rw [commands_cons, commands_space, List.nil_append]
      exact ih fun node mem => spaces node (List.mem_cons_of_mem _ mem)
    | text content => exact absurd first Bool.false_ne_true
    | command name children => exact absurd first Bool.false_ne_true

/-- Trimming takes no command away. -/
theorem commands_trimSpaces (above : Nat) (nodes : List Node) :
    commands above (Parser.trimSpaces nodes) = commands above nodes := by
  have none (nodes : List Node) : commands above (nodes.takeWhile isSpace) = [] :=
    commands_of_isSpace fun node mem => List.mem_takeWhile_imp mem
  have none' (nodes : List Node) : commands above (nodes.takeWhile isSpace).reverse = [] :=
    commands_of_isSpace fun node mem => List.mem_takeWhile_imp (List.mem_reverse.mp mem)
  have left := congrArg (commands above)
    (List.takeWhile_append_dropWhile (p := isSpace) (l := nodes))
  have right := congrArg (commands above ∘ List.reverse)
    (List.takeWhile_append_dropWhile (p := isSpace) (l := (nodes.dropWhile isSpace).reverse))
  rw [commands_append, none, List.nil_append] at left
  simp only [Function.comp_apply, List.reverse_append, commands_append, none', List.append_nil,
    List.reverse_reverse] at right
  rw [Parser.trimSpaces, right, left]

end Node

/-- The commands that a walk through a document meets, each with the number of commands
around it. -/
def Document.commands (document : Document) : List (String × Nat) :=
  Node.commands 0 (document.paragraphs.flatMap Paragraph.nodes)

/-- The names of the commands that a walk through a document meets. -/
def Document.names (document : Document) : List String :=
  document.walk.filterMap Node.commandName?

namespace Machine

variable {m m' : Machine} {ts : List Token}

/-- The commands of the lists on a stack, in the order in which a walk meets them: a list
lies behind everything that has been read in the lists below it. -/
def stackCommands : List OpenList → List (String × Nat)
  | [] => []
  | top :: below =>
    stackCommands below ++ (top.name, below.length) :: Node.commands (below.length + 1) top.children

/-- The commands that the machine has met. -/
def commands (m : Machine) : List (String × Nat) :=
  Node.commands 0 (m.paragraphs.flatMap Paragraph.nodes) ++ Node.commands 0 m.nodes ++
    stackCommands m.stack

/-- A node that is added brings its own commands, inside of the lists that are open. -/
theorem commands_append_node (m : Machine) (node : Node) :
    (m.append node).commands = m.commands ++ Node.commands m.stack.length [node] := by
  rw [append]
  split
  · rename_i empty
    simp only [commands, empty, Node.commands_append, stackCommands, List.append_nil,
      List.append_assoc, List.length_nil]
  · rename_i top below stack
    simp only [commands, stack, Node.commands_append, stackCommands, List.append_assoc,
      List.cons_append, List.length_cons]

theorem commands_append_text (m : Machine) (content : String) :
    (m.append (.text content)).commands = m.commands := by
  rw [commands_append_node, Node.commands_text, List.append_nil]

theorem commands_append_command (m : Machine) (name : String) :
    (m.append (.command name [])).commands = m.commands ++ [(name, m.stack.length)] := by
  rw [commands_append_node, Node.commands_command, Node.commands_nil]

/-- A list that is opened brings its own command. -/
theorem commands_push (m : Machine) (name : String) (line : Nat) :
    (m.push ⟨name, line, []⟩).commands = m.commands ++ [(name, m.stack.length)] := by
  simp only [commands, push, stackCommands, Node.commands_nil, List.append_assoc]

/-- A list that is closed becomes a command where it was. -/
theorem commands_pop {top : OpenList} {below : List OpenList} (stack : m.stack = top :: below)
    (closes : List ImplicitClose) :
    ({ m with stack := below, closes }.append (.command top.name top.children)).commands =
      m.commands := by
  rw [commands_append_node, Node.commands_command]
  simp only [commands, stack, stackCommands, List.append_assoc]

theorem commands_close (m : Machine) : m.close.commands = m.commands := by
  rw [close]
  split
  · exact commands_append_text m _
  · rename_i stack
    exact commands_pop stack m.closes

theorem commands_closeImplicitly (m : Machine) : m.closeImplicitly.commands = m.commands := by
  rw [closeImplicitly]
  split
  · rfl
  · rename_i stack
    exact commands_pop stack _

/-- At the end of a paragraph no command is met and none is lost. -/
theorem commands_endParagraph (m : Machine) : m.endParagraph.commands = m.commands := by
  have closed : m.closeAll.commands = m.commands :=
    Function.Iterate.rec (fun m' : Machine => m'.commands = m.commands) rfl
      (fun m' h => (commands_closeImplicitly m').trans h) m.stack.length
  rw [← closed, endParagraph]
  simp only [commands, closeAll_stack, List.flatMap_append, List.flatMap_cons, List.flatMap_nil,
    Node.commands_append, Node.commands_trimSpaces, Node.commands_nil, List.append_nil]

/-- The height of the stack is the level of the next command. -/
theorem Tracks.level {maxDepth : Nat} {read : List Token} (h : m.Tracks maxDepth read)
    (name : String) : m.stack.length = Start.level ⟨read.reverse, name⟩ := by
  rw [h.depth, Start.level, List.reverse_reverse]

/-- The commands met so far are those of the tokens read so far; the stack tells the level of
the next one. -/
theorem trackedInvariant_commands (maxDepth : Nat) :
    TrackedInvariant maxDepth fun m read ts result => ∀ m', result = .ok m' →
      m'.commands = m.commands ++
        (commandStarts read ts).map fun start => (start.name, start.level) where
  ended := by
    rintro m read - _ ⟨⟩
    rw [commands_endParagraph, commandStarts, List.map_nil, List.append_nil]
  blankLine m read s ts result _ rest m' ran := by
    rw [rest m' ran, commandStarts]
    · exact congrArg (· ++ _) (commands_endParagraph m)
    · simp
  tooDeep _ _ _ _ _ _ _ := nofun
  leftBrace m read name ts result h _ rest m' ran := by
    rw [rest m' ran, commands_push, List.append_assoc, h.level name]
    rfl
  delimited m read name s ts result h _ rest m' ran := by
    rw [rest m' ran]
    show (m.append _).commands ++ _ = _
    rw [commands_append_command, List.append_assoc, h.level name]
    rfl
  bare m read name ts result h _ rest m' ran := by
    rw [rest m' ran, commands_append_command, List.append_assoc, h.level name]
    rfl
  nameMissing _ _ _ _ _ _ := nofun
  space m read s ts result _ rest m' ran := by
    rw [rest m' ran]
    show (m.append _).commands ++ _ = _
    rw [commands_append_node, Node.commands_space, List.append_nil]
    rfl
  rightBrace m read ts result _ rest m' ran := by
    rw [rest m' ran, commands_close]
    rfl
  text m read t ts result _ isText rest m' ran := by
    rw [rest m' ran, commands_append_text, commandStarts]
    rintro name ts rfl
    exact absurd isText Bool.false_ne_true

/-- A run meets the commands behind the backslashes of its tokens, each inside of the lists
that are open there. -/
theorem run_commands {maxDepth : Nat} (ran : run { maxDepth } ts = .ok m') :
    m'.commands = (commandStarts [] ts).map fun start => (start.name, start.level) :=
  (trackedInvariant_commands maxDepth).holds_run (tracks_fresh maxDepth) (atBoundary_nil ts) m' ran

end Machine

/-- The commands in the document that a fresh parser reads are those behind the backslashes
of its tokens, in the same order, and around each are as many as have open lists there. -/
theorem Parser.document_commands {maxDepth : Nat} {ts : List Token} {document : Document}
    {p : Parser}
    (read : Parser.document (Parser.mk maxDepth 0 1 []) ts = .ok document p) :
    document.commands = (commandStarts [] ts).map fun start => (start.name, start.level) := by
  have ran := document_run maxDepth ts
  rw [read] at ran
  have met := Machine.run_commands ran
  simp only [Machine.commands, Node.commands_nil, Machine.stackCommands, List.append_nil] at met
  exact met

/-- The names in the document that a fresh parser reads are those behind the backslashes
of its tokens, in the same order. -/
theorem Parser.document_names {maxDepth : Nat} {ts : List Token} {document : Document} {p : Parser}
    (read : Parser.document (Parser.mk maxDepth 0 1 []) ts = .ok document p) :
    document.names = (commandStarts [] ts).map Start.name := by
  have named := congrArg (List.map Prod.fst) (document_commands read)
  rw [Document.commands, Node.commands_map_fst, List.map_map] at named
  exact named

end TexMarkup
