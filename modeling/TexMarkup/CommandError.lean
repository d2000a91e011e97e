import TexMarkup.EntityKind
import TexMarkup.Html

/-!
# Failures of single commands

A command that cannot be evaluated never stops the evaluation of a text. A
marker takes its place, and a warning goes with the output.

## Main definitions

* `CommandError`, `CommandError.message`, `CommandError.marker`.
* `Warning`, `Warning.display`.
-/

namespace TexMarkup

/-- Why a command has no result. -/
inductive CommandError where
  /-- No command has this name. -/
  | unknownCommand (name : String)
  /-- The result is infinite or no number. -/
  | nonNumeric
  /-- The result is no real number. -/
  | complex
  /-- A number is needed and none is given. -/
  | missingNumber (command : String)
  /-- An operand is neither true nor false. -/
  | notBoolean (command found : String)
  /-- The number of operands is wrong. -/
  | arity (command : String) (expected got : Nat)
  /-- A link without a target. -/
  | missingUri (command : String)
  /-- A link whose target is no address of an accepted scheme. -/
  | invalidUri (command uri : String)
  /-- A text that is no e-mail address. -/
  | invalidEmail (address : String)
  /-- A reference without a number. -/
  | missingId (kind : EntityKind)
  /-- A reference whose number is none. -/
  | invalidId (kind : EntityKind)
  /-- The host has no such entity. -/
  | unknownEntity (kind : EntityKind) (id : Nat)
  /-- A reference to a user without a name. -/
  | missingUser
  /-- The host has no such user. -/
  | unknownUser (name : String)
  /-- The command lies inside `limit` other commands. -/
  | tooDeep (limit : Nat)
  deriving DecidableEq, Repr, Inhabited

namespace CommandError

/-- The failure in words. -/
def message : CommandError → String
  | unknownCommand name => "unknown command " ++ name
  | nonNumeric => "Non-numeric result."
  | complex => "Complex numbers are not yet supported."
  | missingNumber command => command ++ ": no numeric argument given"
  | notBoolean command found => command ++ ": " ++ found ++ " is not a boolean"
  | arity command expected got =>
    command ++ ": expected " ++ toString expected ++ " argument(s), got " ++ toString got
  | missingUri command => command ++ ": error: no URI specified"
  | invalidUri command uri => command ++ ": error: invalid URI " ++ uri
  | invalidEmail address => "mailto: error: invalid e-mail address " ++ address
  | missingId kind => kind.singular ++ "_id: error: no " ++ kind.singular ++ " ID specified"
  | invalidId kind =>
    kind.singular ++ "_id: error: invalid " ++ kind.singular ++ " ID specified"
  | unknownEntity kind id => "unknown " ++ kind.singular ++ " ID " ++ toString id
  | missingUser => "user: error: no user specified"
  | unknownUser name => "unknown user " ++ name
  | tooDeep limit => "commands nested deeper than " ++ toString limit ++ " levels"

/-- What is shown in place of the command. -/
def marker (e : CommandError) : String :=
  Html.errorMarker e.message

end CommandError

/-- A problem that was found and passed over. -/
structure Warning where
  /-- The command that was being evaluated, if there was one. -/
  command : Option String
  /-- The problem in words. -/
  message : String
  deriving DecidableEq, Repr, Inhabited

/-- A warning as one line of text. -/
def Warning.display (w : Warning) : String :=
  match w.command with
  | some command => "Warning in \\" ++ command ++ ": " ++ w.message
  | none => "Warning: " ++ w.message

end TexMarkup
