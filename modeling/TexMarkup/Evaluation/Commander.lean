import TexMarkup.Evaluation.Session
import TexMarkup.Node
import TexMarkup.Options

/-!
# Commanders

A commander is what a host brings to the evaluation of a text: its answers to
references, and commands of its own, which come before the built-in ones. A
command does not see its children rendered. It gets a clause for each, which
holds the child and the way to render it, and renders the clauses it needs.

## Main definitions

* `Clause`: a child of a command.
* `Resolver`, `Commander`, `Setting`.
* `Commander.standard`, `Commander.actionable`, `Commander.templates`.
* `entityLink`, `userLink`: what a reference becomes.
-/

namespace TexMarkup

/-- A child of a command and the way to render it. -/
structure Clause where
  /-- The child as it was written. -/
  node : Node
  /-- Renders the child. -/
  render : Eval String

/-- Renders all clauses from left to right and joins what comes out. -/
def renderAll : List Clause → Eval String
  | [] => pure ""
  | clause :: clauses => do
    let html ← clause.render
    let rest ← renderAll clauses
    pure (html ++ rest)

/-- The clauses that are no spaces. -/
def significant (clauses : List Clause) : List Clause :=
  clauses.filter fun clause => !clause.node.isSpace

/-- Renders a clause if there is one. -/
def renderOption : Option Clause → Eval String
  | some clause => clause.render
  | none => pure ""

/-- A host that can show what is referred to. -/
structure Resolver where
  /-- The fragment that shows an entity, if there is such an entity. -/
  entity : EntityKind → Nat → Option String
  /-- The fragment that shows a user, if there is such a user. -/
  user : String → Option String

/-- What a host brings to an evaluation. -/
structure Commander where
  /-- Answers references; without it they become plain links. -/
  resolver : Option Resolver := none
  /-- The commands of the host, by their exact names. -/
  custom : String → Option (List Clause → Eval String) := fun _ => none

namespace Commander

/-- The built-in commands with plain links. -/
def standard : Commander := {}

/-- The built-in commands with references answered by a host. -/
def actionable (resolver : Resolver) : Commander := { resolver := some resolver }

/-- The built-in commands and, before them, commands that write a fixed text on
either side of their rendered children. -/
def templates (table : List (String × String × String)) : Commander where
  custom name := (table.lookup name).map fun (opening, closing) clauses => do
    let html ← renderAll clauses
    pure (opening ++ html ++ closing)

end Commander

/-- What stays the same during an evaluation. -/
structure Setting where
  /-- What the host brings. -/
  commander : Commander
  /-- What the caller has chosen. -/
  options : Options

/-- The link that an entity becomes without a resolver. -/
def plainEntityLink (options : Options) (kind : EntityKind) (id : Nat) : String :=
  Html.anchor (options.baseUrl ++ "/" ++ kind.plural ++ "/" ++ toString id ++ kind.view)
    (kind.label ++ " #" ++ toString id)

/-- The link that a user becomes without a resolver. -/
def plainUserLink (options : Options) (name : String) : String :=
  Html.anchor (options.baseUrl ++ "/users/" ++ Html.escape name) (Html.escape name)

/-- What a reference to an entity becomes. -/
def entityLink (setting : Setting) (kind : EntityKind) (id : Nat) : Attempt String :=
  match setting.commander.resolver with
  | none => pure (plainEntityLink setting.options kind id)
  | some resolver => do
    recordLookup (.entity kind id)
    match resolver.entity kind id with
    | some html => pure html
    | none => throw (.unknownEntity kind id)

/-- What a reference to a user becomes. -/
def userLink (setting : Setting) (name : String) : Attempt String :=
  match setting.commander.resolver with
  | none => pure (plainUserLink setting.options name)
  | some resolver => do
    recordLookup (.user name)
    match resolver.user name with
    | some html => pure html
    | none => throw (.unknownUser name)

end TexMarkup
