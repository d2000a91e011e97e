import TexMarkup.EntityKind
import TexMarkup.Number.Double

/-!
# Families of commands

A handler says to which family a command belongs and which member of the family
it is. Several names can share one handler.

## Main definitions

* `Arithmetic`, `NumericFunction`, `Percentage`, `Comparison`, `Logic`,
  `ControlForm`: the members of the larger families.
* `Handler`: all families.
-/

namespace TexMarkup

/-- Operations on all numeric operands, from left to right. -/
inductive Arithmetic where
  | add
  | subtract
  | multiply
  | divide
  | modulo
  | power
  deriving DecidableEq, Repr

/-- Functions of one or two numbers, or of all of them. -/
inductive NumericFunction where
  | sin
  | cos
  | tan
  | asin
  | acos
  | atan
  | sinh
  | cosh
  | tanh
  | asinh
  | acosh
  | atanh
  /-- The error function. -/
  | erf
  /-- One minus the error function. -/
  | erfc
  | gamma
  /-- The logarithm of the magnitude of the gamma function. -/
  | logGamma
  | sqrt
  /-- The natural logarithm. -/
  | ln
  | log2
  | log10
  /-- The logarithm of the second number to the base of the first. -/
  | log
  /-- The first number times a power of two. -/
  | scale
  /-- The Euclidean length of all numbers. -/
  | hypot
  | toRadians
  | toDegrees
  deriving DecidableEq, Repr

/-- Calculations with percentages. -/
inductive Percentage where
  /-- A percentage of a number. -/
  | of
  /-- A number increased by a percentage. -/
  | plus
  /-- A number decreased by a percentage. -/
  | minus
  /-- A number as a percentage of a total. -/
  | ofTotal
  deriving DecidableEq, Repr

/-- Comparisons of neighbouring operands. -/
inductive Comparison where
  | equal
  | notEqual
  | less
  | lessEqual
  | greater
  | greaterEqual
  deriving DecidableEq, Repr

/-- Operations on truth values. -/
inductive Logic where
  | and
  | or
  /-- Exactly one operand is true. -/
  | xor
  | nand
  | nor
  /-- Not exactly one operand is true. -/
  | xnor
  | not
  deriving DecidableEq, Repr

/-- Forms that choose which of their clauses are rendered. -/
inductive ControlForm where
  | branch
  | unless
  | when
  | cond
  | case
  | comment
  /-- The first clause only. -/
  | first
  /-- The last clause only. -/
  | last
  deriving DecidableEq, Repr

/-- How a command is evaluated. -/
inductive Handler where
  /-- An element around the rendered children. -/
  | wrap (tag : String)
  /-- An element with attributes around the rendered children. -/
  | wrapWith (tag attributes : String)
  /-- A fixed text; children are ignored. -/
  | literal (text : String)
  /-- One or more non-breaking spaces. -/
  | nbsp
  /-- A fixed number. -/
  | constant (value : Double)
  | arithmetic (op : Arithmetic)
  | function (f : NumericFunction)
  | percent (op : Percentage)
  | compare (op : Comparison)
  | logic (op : Logic)
  | control (form : ControlForm)
  /-- A link with a target and a description. -/
  | link
  /-- An image with a source and an alternative text. -/
  | image
  /-- A link to an e-mail address. -/
  | mailto
  /-- A reference to an entity of the host. -/
  | entity (kind : EntityKind)
  /-- A reference to a user of the host. -/
  | user
  deriving DecidableEq, Repr

end TexMarkup
