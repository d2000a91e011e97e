import TexMarkup.Command.Table
import TexMarkup.Evaluation.Choice
import TexMarkup.Evaluation.Reference

/-!
# Evaluation

Text is escaped, a space is one space, and a command is evaluated by the host or,
if the host has no such command, by the built-in table. Evaluation always has a
result: a command without one leaves a marker and a warning.

## Main definitions

* `builtin`: a command of the table.
* `evaluate`: a command of the host or of the table.
* `Node.render`, `Node.clauses`: a tree, and the clauses of a list of trees.
-/

namespace TexMarkup

variable [AddressReader] [SpecialFunctions]

/-- What a command of the table gives. -/
def Handler.run (handler : Handler) (setting : Setting) (name : String)
    (clauses : List Clause) : Attempt String :=
  match handler with
  | .wrap tag => do
    let html ← renderAll clauses
    pure (Html.wrapTag tag html)
  | .wrapWith tag attributes => do
    let html ← renderAll clauses
    pure (Html.wrapTagWith tag attributes html)
  | .literal text => pure text
  | .nbsp => renderNbsp clauses
  | .constant value => Attempt.ofExcept (formatNumber value)
  | .arithmetic op => calculate (op.apply name) clauses
  | .function f => calculate (f.apply name) clauses
  | .percent op => calculate (op.apply name) clauses
  | .compare op => compareOperands op clauses
  | .logic op => renderLogic op name clauses
  | .control form => renderControl form name clauses
  | .link => renderLink name clauses
  | .image => renderImage name clauses
  | .mailto => renderMailto name clauses
  | .entity kind => entityReference setting kind clauses
  | .user => userReference setting clauses

/-- Evaluates a command with the built-in table. -/
def builtin (setting : Setting) (name : String) (clauses : List Clause) : Eval String :=
  match lookupCommand name with
  | none => fail name (.unknownCommand name)
  | some handler => (handler.run setting name clauses).orMarker name

/-- Evaluates a command: the host's, if it has one of this name. -/
def evaluate (setting : Setting) (name : String) (clauses : List Clause) : Eval String :=
  match setting.commander.custom name with
  | some command => command clauses
  | none => builtin setting name clauses

/-- Evaluates a command one level deeper, unless that is past the limit. -/
def nested (limit : Nat) (name : String) (command : Eval String) : Eval String := fun s =>
  if limit ≤ s.depth then fail name (.tooDeep limit) s
  else
    let (html, s') := command { s with depth := s.depth + 1 }
    (html, { s' with depth := s'.depth - 1 })

mutual

/-- Renders a tree. -/
def Node.render (setting : Setting) : Node → Eval String
  | .text content => pure (Html.escape content)
  | .space => pure " "
  | .command name children =>
    nested setting.options.maxDepth name (evaluate setting name (Node.clauses setting children))

/-- The trees of a list with the way to render each. -/
def Node.clauses (setting : Setting) : List Node → List Clause
  | [] => []
  | node :: nodes => ⟨node, node.render setting⟩ :: Node.clauses setting nodes

end

/-- Renders trees from left to right and joins what comes out. -/
def renderNodes (setting : Setting) (nodes : List Node) : Eval String :=
  renderAll (Node.clauses setting nodes)

end TexMarkup
