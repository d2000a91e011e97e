import TexMarkup.Evaluation.Commander
import TexMarkup.Number.Decimal
import TexMarkup.Text.Blank
import TexMarkup.Uri

/-!
# Links and references

Links and images have a target, which is vetted before anything else is
rendered. References name an entity by its number or a user by name; only the
first text among their children counts.

## Main definitions

* `renderLink`, `renderImage`, `renderMailto`: commands with a target.
* `entityReference`, `userReference`: commands that ask the host.
-/

namespace TexMarkup

/-- A target as it was written: a text is taken as it is, and anything else is
rendered. -/
def argumentText (clause : Clause) : Eval String :=
  match clause.node with
  | .text content => pure content
  | _ => clause.render

/-- The first clause that is no space, and the clauses after it and after the
spaces that follow it. -/
def splitFirstArgument (clauses : List Clause) : Option (Clause × List Clause) :=
  match clauses.dropWhile fun clause => clause.node.isSpace with
  | [] => none
  | first :: rest => some (first, rest.dropWhile fun clause => clause.node.isSpace)

variable [AddressReader]

/-- An address of an accepted scheme, escaped. -/
def checkedUri (name uri : String) : Except CommandError String :=
  match AddressReader.scheme? uri with
  | some scheme =>
    if Uri.isAcceptedScheme scheme then .ok (Html.escape uri) else .error (.invalidUri name uri)
  | none => .error (.invalidUri name uri)

/-- The target of a command and the clauses after it. -/
def requiredUri (name : String) (clauses : List Clause) : Attempt (String × List Clause) :=
  match splitFirstArgument clauses with
  | none => throw (.missingUri name)
  | some (first, rest) => do
    let uri ← argumentText first
    let target ← Attempt.ofExcept (checkedUri name (trim uri))
    pure (target, rest)

/-- A link to a target; without a description it shows the target. -/
def renderLink (name : String) (clauses : List Clause) : Attempt String := do
  let (target, rest) ← requiredUri name clauses
  let html ← renderAll rest
  let description := trimEnd html
  pure (Html.anchor target (if description = "" then target else description))

/-- An image with a source; the plain text after it describes the image. -/
def renderImage (name : String) (clauses : List Clause) : Attempt String := do
  let (source, rest) ← requiredUri name clauses
  let description := Node.textContentList (rest.map Clause.node)
  pure (Html.image source (Html.escape (trimEnd description)))

/-- One at sign with something on both sides, and no blanks anywhere. -/
def isEmail (address : String) : Bool :=
  let cs := address.toList
  let user := cs.takeWhile (· != '@')
  match cs.dropWhile (· != '@') with
  | [] => false
  | _ :: host => !user.isEmpty && !host.isEmpty && !host.contains '@' && !cs.any isBlank

/-- A link to an e-mail address. -/
def renderMailto (name : String) (clauses : List Clause) : Attempt String :=
  match splitFirstArgument clauses with
  | none => throw (.missingUri name)
  | some (first, _) => do
    let address ← argumentText first
    if isEmail address then
      pure (Html.anchor ("mailto:" ++ Html.escape address) (Html.escape address))
    else throw (.invalidEmail address)

/-- The first text among the children. -/
def firstText? (clauses : List Clause) : Option String :=
  clauses.findSome? fun clause => clause.node.asText?

/-- The number that names an entity: digits only, and below `2 ^ 64`. -/
def entityId? (text : String) : Option Nat :=
  (Decimal.natural? text.toList).filter (· < 2 ^ 64)

/-- A reference to an entity of the host. -/
def entityReference (setting : Setting) (kind : EntityKind) (clauses : List Clause) :
    Attempt String :=
  match firstText? clauses with
  | none => throw (.missingId kind)
  | some text =>
    match entityId? text with
    | none => throw (.invalidId kind)
    | some id => entityLink setting kind id

/-- A reference to a user of the host. -/
def userReference (setting : Setting) (clauses : List Clause) : Attempt String :=
  match firstText? clauses with
  | none => throw .missingUser
  | some name => userLink setting name

end TexMarkup
