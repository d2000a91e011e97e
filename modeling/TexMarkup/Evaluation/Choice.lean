import TexMarkup.Evaluation.Numeric

/-!
# Truth values and choices

A truth value is the text `true` or `false`. Forms that choose between clauses
render those they need for the choice and the one that is chosen, and no other.

## Main definitions

* `truth`, `Logic.apply`, `renderLogic`: operations on truth values.
* `renderControl`: the forms that choose.
-/

namespace TexMarkup

/-- Renders a clause and reads it as a truth value. -/
def truth (name : String) (clause : Clause) : Attempt Bool := do
  let html ← clause.render
  match trim html with
  | "true" => pure true
  | "false" => pure false
  | _ => throw (.notBoolean name html)

/-- Renders clauses from left to right and reads each as a truth value. -/
def truths (name : String) : List Clause → Attempt (List Bool)
  | [] => pure []
  | clause :: clauses => do
    let b ← truth name clause
    let bs ← truths name clauses
    pure (b :: bs)

/-- The result of an operation on truth values. -/
def Logic.apply (op : Logic) (name : String) (bs : List Bool) : Except CommandError Bool :=
  let count := bs.count true
  match op with
  | and => .ok (count == bs.length)
  | or => .ok (0 < count)
  | xor => .ok (count == 1)
  | nand => .ok (count != bs.length)
  | nor => .ok (count == 0)
  | xnor => .ok (count != 1)
  | not =>
    match bs with
    | [b] => .ok !b
    | bs => .error (.arity name 1 bs.length)

/-- An operation on the truth values of all clauses. -/
def renderLogic (op : Logic) (name : String) (clauses : List Clause) : Attempt String := do
  let bs ← truths name (significant clauses)
  let b ← Attempt.ofExcept (op.apply name bs)
  pure (truthText b)

/-- Renders clauses from left to right with a space between neighbours. -/
def renderSpaced : List Clause → Eval String
  | [] => pure ""
  | [clause] => clause.render
  | clause :: clauses => do
    let html ← clause.render
    let rest ← renderSpaced clauses
    pure (html ++ " " ++ rest)

/-- Clauses in pairs of a test and a body: the body after the first true test. -/
def renderCond (name : String) : List Clause → Attempt String
  | [] => pure ""
  | [test] => do
    let _ ← truth name test
    pure ""
  | test :: body :: rest => do
    if ← truth name test then body.render else renderCond name rest

/-- Clauses in pairs of a key and a body: the body after the first key that
renders to the given text. A clause without a partner is chosen when no key
matches. -/
def renderCase (value : String) : List Clause → Eval String
  | [] => pure ""
  | [default] => default.render
  | key :: body :: rest => do
    let html ← key.render
    if html = value then body.render else renderCase value rest

/-- The body of a form whose test is true: one clause as it is, several in an
element of their own. -/
def renderBody : List Clause → Eval String
  | [] => pure ""
  | [clause] => clause.render
  | clauses => do
    let html ← renderSpaced clauses
    pure (Html.wrapTag "span" html)

/-- A form that chooses among its clauses; spaces are no clauses. -/
def renderControl (form : ControlForm) (name : String) (clauses : List Clause) : Attempt String :=
  match form, significant clauses with
  | .comment, _ => pure ""
  | .first, cs => renderOption cs.head?
  | .last, cs => renderOption cs.getLast?
  | .cond, cs => renderCond name cs
  -- The clause that is not chosen is never rendered, so it cannot fail.
  | .branch, test :: cs => do
    if ← truth name test then renderOption cs[0]? else renderOption cs[1]?
  | .unless, test :: cs => do
    if ← truth name test then pure "" else renderOption cs[0]?
  | .when, test :: cs => do
    if ← truth name test then renderBody cs else pure ""
  | .case, subject :: cs => do
    let value ← subject.render
    renderCase value cs
  | .branch, [] | .unless, [] | .when, [] | .case, [] => throw (.arity name 1 0)

end TexMarkup
