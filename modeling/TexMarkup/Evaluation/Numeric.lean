import TexMarkup.Command.Calculation
import TexMarkup.Command.Literal
import TexMarkup.Evaluation.Commander
import TexMarkup.Number.Text

/-!
# Numeric commands

The operands of a numeric command are those of its children that render to a
number; all others are rendered and then passed over.

## Main definitions

* `formatNumber`: the text of a result.
* `operands`: the numbers among the rendered clauses.
* `calculate`, `compareOperands`, `renderNbsp`: the commands themselves.
-/

namespace TexMarkup

/-- The text of a result, which has to be a finite number. -/
def formatNumber (x : Double) : Except CommandError String :=
  match x.toText? with
  | some text => .ok text
  | none => .error .nonNumeric

/-- The numbers among the rendered clauses, from left to right. -/
def operands : List Clause → Eval (List Double)
  | [] => pure []
  | clause :: clauses =>
    if clause.node.isSpace then operands clauses
    else do
      let html ← clause.render
      let xs ← operands clauses
      -- Passing over a clause is no failure and leaves no warning.
      match coerceNumber html with
      | some x => pure (x :: xs)
      | none => pure xs

/-- The text of a truth value. -/
def truthText (b : Bool) : String :=
  if b then "true" else "false"

/-- The text of what is calculated from the operands. -/
def calculate (calculation : List Double → Calculation) (clauses : List Clause) :
    Attempt String := do
  let xs ← operands clauses
  let x ← Attempt.ofExcept (calculation xs)
  Attempt.ofExcept (formatNumber x)

/-- Whether the operands compare. -/
def compareOperands (op : Comparison) (clauses : List Clause) : Eval String := do
  let xs ← operands clauses
  pure (truthText (op.holds xs))

/-- Non-breaking spaces, as many as the first operand says: its whole part, but at
least one and at most `maxNbspCount`. -/
def renderNbsp (clauses : List Clause) : Eval String := do
  let xs ← operands clauses
  let count := match xs with
    | [] => 1
    | x :: _ => (min (max x.truncate 1) maxNbspCount).toNat
  pure (String.join (List.replicate count nbspText))

end TexMarkup
