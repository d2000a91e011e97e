import TexMarkup.CommandError

/-!
# The state of an evaluation

Evaluating a text changes three things: the nesting depth, the warnings found so
far and the references that the host has been asked about. An evaluation is a
computation on this state. An attempt may also fail with the error of a command;
what it has changed by then stays.

## Main definitions

* `Session`, `Eval`, `Attempt`.
* `fail`: the marker of a failed command, with its warning.
* `Attempt.orMarker`: the result of an attempt or the marker of its failure.
-/

namespace TexMarkup

/-- A question to the host. -/
inductive Reference where
  /-- Which entity of a kind has this number? -/
  | entity (kind : EntityKind) (id : Nat)
  /-- Who is the user with this name? -/
  | user (name : String)
  deriving DecidableEq, Repr, Inhabited

/-- The state of an evaluation. -/
structure Session where
  /-- How many commands are being evaluated. -/
  depth : Nat := 0
  /-- The warnings so far, the oldest first. -/
  warnings : List Warning := []
  /-- The questions put to the host so far, the oldest first. -/
  lookups : List Reference := []
  deriving DecidableEq, Repr, Inhabited

/-- A computation that always has a result. -/
abbrev Eval := StateM Session

/-- A computation that may fail with the error of a command. -/
abbrev Attempt := ExceptT CommandError Eval

/-- Records a failure of a command and gives the marker that stands for it. -/
def fail (command : String) (e : CommandError) : Eval String := fun s =>
  (e.marker, { s with warnings := s.warnings ++ [⟨some command, e.message⟩] })

/-- Records a question to the host. -/
def recordLookup (r : Reference) : Eval Unit := fun s =>
  ((), { s with lookups := s.lookups ++ [r] })

/-- The result of an attempt; a failure leaves a marker and a warning. -/
def Attempt.orMarker (command : String) (attempt : Attempt String) : Eval String := do
  match ← attempt.run with
  | .ok html => pure html
  | .error e => fail command e

/-- An attempt with a result that is known already. -/
def Attempt.ofExcept {α : Type} (result : Except CommandError α) : Attempt α :=
  ExceptT.mk (pure result)

end TexMarkup
