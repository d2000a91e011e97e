import TexMarkup.Command.Table
import TexMarkup.Lint.Report
import TexMarkup.Parser
import TexMarkup.Text.Distance

/-!
# Checking texts

A text can be checked without being rendered. Either it cannot be read, which is
the only finding then, or its unknown commands are warned about and the argument
lists that its paragraphs leave open are noted.

## Main definitions

* `closestAmong`, `closestCommand`: the command that a misspelt name probably means.
* `unknownCommands`: a warning for each unknown command.
* `checkMarkup`: everything that is found in a text.
-/

namespace TexMarkup

/-- The nearer of two candidates with their distances; of two that are equally
near, the one that comes first in the alphabet. -/
def nearer (a b : Nat × String) : Nat × String :=
  if b.1 < a.1 || (b.1 == a.1 && decide (b.2 < a.2)) then b else a

/-- A candidate with its distance from a name. -/
def withDistance (name candidate : String) : Nat × String :=
  (editDistance name candidate, candidate)

/-- The candidate nearest to a name, unless it is too far off to be meant: a third of the
characters may differ, and one in any case. -/
def closestAmong (candidates : List String) (name : String) : Option String :=
  let limit := max (name.length / 3) 1
  let near := (candidates.map (withDistance name)).filter fun candidate => candidate.1 ≤ limit
  match near with
  | [] => none
  | first :: rest => some (rest.foldl nearer first).2

/-- The command that a misspelt name probably means. -/
def closestCommand (name : String) : Option String :=
  closestAmong (commandTable.map Prod.fst) (normalizeName name)

/-- The warning about an unknown command. -/
def unknownCommandWarning (name : String) (line : Nat) : Diagnostic where
  severity := .warning
  message := "unknown command \\" ++ name
  line := some line
  suggestion := (closestCommand name).map fun close => "did you mean \\" ++ close ++ "?"

/-- A warning for every backslash that is followed by a word which is no command,
from left to right. The first token is on the given line. -/
def unknownCommands (line : Nat) : List Token → List Diagnostic
  | .backslash :: .word name :: ts =>
    -- The name is looked at again as a token of its own; it ends no line.
    let rest := unknownCommands line (.word name :: ts)
    if isKnownCommand name then rest else unknownCommandWarning name line :: rest
  | t :: ts => unknownCommands (line + t.newlineCount) ts
  | [] => []

/-- The note about an argument list that is left open. -/
def openListNote (close : ImplicitClose) : Diagnostic where
  severity := .info
  message := "argument list of \\" ++ close.command ++ " is never closed"
  line := some close.line
  suggestion := some "add a closing '\x7d'"

/-- The finding that a text cannot be read. -/
def parseErrorDiagnostic (e : ParseError) : Diagnostic where
  severity := .error
  message := e.message
  line := some e.line

/-- Everything that is found in a text. -/
def checkMarkup (text : String) : Report :=
  let tokens := tokenize text
  match Parser.document (Parser.mk defaultMaxDepth 0 1 []) tokens with
  | .error e _ => Report.add {} (parseErrorDiagnostic e)
  | .ok _ p =>
    (unknownCommands 1 tokens ++ p.implicitCloses.map openListNote).foldl Report.add {}

end TexMarkup
