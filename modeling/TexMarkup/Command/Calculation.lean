import TexMarkup.Command.Handler
import TexMarkup.CommandError
import TexMarkup.Number.Function

/-!
# Calculations

What the numeric commands compute from their operands. Results that are not real
are errors; results that are infinite or no numbers are found when they are
written.

## Main definitions

* `Arithmetic.apply`, `NumericFunction.apply`, `Percentage.apply`: the result of
  a command with the given name on its operands.
* `Comparison.holds`: whether all neighbours compare.
-/

namespace TexMarkup

/-- The result of a calculation. -/
abbrev Calculation := Except CommandError Double

/-- Combines one or more operands from left to right. -/
def foldOperands (name : String) (step : Double → Double → Calculation) :
    List Double → Calculation
  | [] => .error (.missingNumber name)
  | x :: xs => xs.foldlM step x

/-- A power; a fractional power of a negative number is not real. -/
def power (base exponent : Double) : Calculation :=
  if base.less (.zero false) && !exponent.isIntegral then .error .complex
  else .ok (base.pow exponent)

namespace Arithmetic

/-- The result of an operation on its operands. -/
def apply (op : Arithmetic) (name : String) (xs : List Double) : Calculation :=
  match op with
  | add => .ok (xs.foldl Double.add (.zero true))
  | multiply => .ok (xs.foldl Double.mul .one)
  | subtract =>
    match xs with
    | [x] => .ok x.neg
    | xs => foldOperands name (fun a b => .ok (a.sub b)) xs
  | divide =>
    match xs with
    | [x] => .ok (Double.one.div x)
    | xs => foldOperands name (fun a b => .ok (a.div b)) xs
  | modulo => foldOperands name (fun a b => .ok (a.flooredMod b)) xs
  | power => foldOperands name TexMarkup.power xs

end Arithmetic

/-- A number between minus one and one. -/
def unitDomain (x : Double) : Calculation :=
  if Double.one.less x.abs then .error .complex else .ok x

/-- A number that is not negative. -/
def nonNegative (x : Double) : Calculation :=
  if x.less (.zero false) then .error .complex else .ok x

namespace NumericFunction

/-- The number one hundred and eighty. -/
def halfTurn : Double := .ofRatio false 180 1

/-- A function of the first operand. -/
def ofFirst (name : String) (f : Double → Calculation) : List Double → Calculation
  | [] => .error (.missingNumber name)
  | x :: _ => f x

/-- The result of a function on its operands. -/
def apply [SpecialFunctions] (f : NumericFunction) (name : String) (xs : List Double) :
    Calculation :=
  let total (g : Double → Double) := ofFirst name (fun x => .ok (g x)) xs
  let within (domain : Double → Calculation) (g : Double → Double) :=
    ofFirst name (fun x => (domain x).map g) xs
  match f with
  | sin => total .sin
  | cos => total .cos
  | tan => total .tan
  | asin => within unitDomain .asin
  | acos => within unitDomain .acos
  | atan => total .atan
  | sinh => total .sinh
  | cosh => total .cosh
  | tanh => total .tanh
  | asinh => total .asinh
  | acosh => within (fun x => if x.less .one then .error .complex else .ok x) .acosh
  | atanh => within unitDomain .atanh
  | erf => total SpecialFunctions.erf
  | erfc => total SpecialFunctions.erfc
  | gamma => total SpecialFunctions.gamma
  | logGamma => total SpecialFunctions.logGamma
  | sqrt => within nonNegative .sqrt
  | ln => within nonNegative .ln
  | log2 => within nonNegative .log2
  | log10 => within nonNegative .log10
  | log =>
    match xs with
    | [] => .error (.missingNumber name)
    | [x] => (nonNegative x).map .ln
    | base :: x :: _ => do
      let x ← nonNegative x
      let base ← nonNegative base
      return x.ln.div base.ln
  | scale =>
    match xs with
    | fraction :: exponent :: _ => .ok (SpecialFunctions.scale fraction exponent.toInt32)
    | xs => .error (.arity name 2 xs.length)
  | hypot =>
    match xs with
    | [] => .error (.missingNumber name)
    | xs => .ok ((xs.map fun x => x.mul x).foldl Double.add (.zero true)).sqrt
  | toRadians => total fun x => x.mul (Double.pi.div halfTurn)
  | toDegrees => total fun x => x.mul (halfTurn.div .pi)

end NumericFunction

namespace Percentage

/-- The number one hundred. -/
def hundred : Double := .ofRatio false 100 1

/-- The result for two numbers. -/
def step (op : Percentage) (a b : Double) : Double :=
  match op with
  | of => (a.mul b).div hundred
  | plus => a.add ((a.mul b).div hundred)
  | minus => a.sub ((a.mul b).div hundred)
  | ofTotal => (a.mul hundred).div b

/-- The result for two or more numbers, from left to right. -/
def apply (op : Percentage) (name : String) (xs : List Double) : Calculation :=
  if xs.length < 2 then .error (.arity name 2 xs.length)
  else foldOperands name (fun a b => .ok (op.step a b)) xs

end Percentage

namespace Comparison

/-- Whether two numbers compare. -/
def test (op : Comparison) (a b : Double) : Bool :=
  match op with
  | equal => a.equal b
  | notEqual => !a.equal b
  | less => a.less b
  | lessEqual => a.lessEqual b
  | greater => b.less a
  | greaterEqual => b.lessEqual a

/-- Whether all neighbours compare. -/
def holds (op : Comparison) : List Double → Bool
  | a :: b :: xs => op.test a b && op.holds (b :: xs)
  | _ => true

end Comparison

end TexMarkup
