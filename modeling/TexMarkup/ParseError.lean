/-!
# Structural errors

Markup is forgiving: only a backslash without a command name and nesting past a
limit make a text unreadable. Each error knows the line on which it was found.

## Main definitions

* `ParseError`, `ParseError.line`, `ParseError.message`.
-/

namespace TexMarkup

/-- Why a text has no tree. -/
inductive ParseError where
  /-- A backslash is not followed by a word; `found` describes what follows. -/
  | missingCommandName (line : Nat) (found : String)
  /-- A command lies inside `limit` other commands. -/
  | nestingTooDeep (line limit : Nat)
  deriving DecidableEq, Repr, Inhabited

namespace ParseError

/-- The line on which the error was found, counted from one. -/
def line : ParseError → Nat
  | missingCommandName line _ => line
  | nestingTooDeep line _ => line

/-- The error in words. -/
def message : ParseError → String
  | missingCommandName line found =>
    "Parse error at line " ++ toString line ++
      ": expected a command name after '\\', found " ++ found
  | nestingTooDeep line limit =>
    "Parse error at line " ++ toString line ++
      ": commands nested deeper than " ++ toString limit ++ " levels"

end ParseError

end TexMarkup
