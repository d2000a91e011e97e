import TexMarkup.Number.Enclosure

/-!
# Elementary functions of enclosures

Exponentials, logarithms and the circular functions from their power series. The
argument is made small first, so that the parts of the series shrink by half at
least from one to the next.

## Main definitions

* `Enclosure.pi?`, `Enclosure.ln2?`: the two constants behind the reductions.
* `Enclosure.exp?`, `lnDyadic?`, `ln?`.
* `Enclosure.sinCos?`, `atan?`.
-/

namespace TexMarkup

namespace Enclosure

variable {p : Nat}

/-- The inverse tangent of `1 / n`, or its hyperbolic counterpart, for `2 ≤ n`. -/
def arcInverse? (alternating : Bool) (n : Nat) : Option (Enclosure p) :=
  series (fun k part => part.divNat (2 * k + 1))
    (fun _ part =>
      let next := part.divNat (n * n)
      if alternating then next.neg else next)
    (ofRatio 1 n)

/-- The number π: four times the difference of four times the angle whose tangent
is a fifth and the angle whose tangent is a 239th. -/
def pi? : Option (Enclosure p) := do
  let a ← arcInverse? true 5
  let b ← arcInverse? true 239
  return ((a.mulInt 4).sub b).mulInt 4

/-- The natural logarithm of two: twice the inverse hyperbolic tangent of a third. -/
def ln2? : Option (Enclosure p) := do
  let a ← arcInverse? false 3
  return a.mulInt 2

/-- The series of the exponential function; the argument is small. -/
def expSeries? (x : Enclosure p) : Option (Enclosure p) :=
  series (fun _ part => part) (fun k part => (part.mul x).divNat (k + 1)) (ofInt 1)

/-- The number squared again and again. -/
def squareTimes : Nat → Enclosure p → Enclosure p
  | 0, x => x
  | n + 1, x => squareTimes n x.square

/-- The exponential function. The argument loses a multiple of the logarithm of
two, which becomes a power of two, and is divided by a power of two, which becomes
repeated squaring. -/
def exp? (x : Enclosure p) : Option (Enclosure p) := do
  let ln2 ← ln2?
  let exponent := floorDiv x.lo (max ln2.lo.toNat 1)
  let r := x.sub (ln2.mulInt exponent)
  if r.hi ≤ 2 ^ (p + 1) then
    let e ← expSeries? (r.divNat (2 ^ 8))
    return (squareTimes 8 e).scale exponent
  else none

/-- The natural logarithm of `n * 2 ^ exponent` for a positive `n`. The number is a
power of two times one between about 0.7 and 1.4, whose logarithm is twice an
inverse hyperbolic tangent. -/
def lnDyadic? (n : Nat) (exponent : Int) : Option (Enclosure p) := do
  let ln2 ← ln2?
  let bits := Nat.log2 n
  let shift := if 2 * n * n < 2 ^ (2 * bits + 2) then bits else bits + 1
  let num : Int := n - 2 ^ shift
  let den := n + 2 ^ shift
  let t : Enclosure p := ofRatio num den
  let ratio : Enclosure p := ofRatio (num * num) (den * den)
  let a ← series (fun k part => part.divNat (2 * k + 1)) (fun _ part => part.mul ratio) t
  return (a.mulInt 2).add (ln2.mulInt (shift + exponent))

/-- The natural logarithm of a number that is certainly positive. -/
def ln? (x : Enclosure p) : Option (Enclosure p) := do
  if 0 < x.lo then
    let low : Enclosure p ← lnDyadic? x.lo.toNat (-p)
    let high : Enclosure p ← lnDyadic? x.hi.toNat (-p)
    return ⟨low.lo, high.hi⟩
  else none

/-- Sine and cosine of an angle of less than a right one. -/
def sinCosSeries? (x : Enclosure p) : Option (Enclosure p × Enclosure p) := do
  let square := x.mul x
  let next (offset k : Nat) (part : Enclosure p) : Enclosure p :=
    ((part.mul square).divNat ((2 * k + 1 + offset) * (2 * k + 2 + offset))).neg
  let sin ← series (fun _ part => part) (next 1) x
  let cos ← series (fun _ part => part) (next 0) (ofInt 1)
  return (sin, cos)

/-- Sine and cosine. The angle loses the nearest multiple of a right angle, which
only exchanges the two and changes their signs. -/
def sinCos? (x : Enclosure p) : Option (Enclosure p × Enclosure p) := do
  let pi : Enclosure p ← pi?
  let quarters := floorDiv (4 * x.lo + pi.lo) (2 * max pi.lo.toNat 1)
  let r := x.sub ((pi.mulInt quarters).divNat 2)
  if -(2 ^ p) ≤ r.lo ∧ r.hi ≤ 2 ^ p then
    let (sin, cos) ← sinCosSeries? r
    return match quarters % 4 with
      | 0 => (sin, cos)
      | 1 => (cos, sin.neg)
      | 2 => (sin.neg, cos.neg)
      | _ => (cos.neg, sin)
  else none

/-- The tangent of half the angle with the given tangent. -/
def halveTangent? (x : Enclosure p) : Option (Enclosure p) :=
  x.div? ((ofInt 1).add ((ofInt 1).add (x.mul x)).sqrt)

/-- The inverse tangent of a number between minus one and one. -/
def atanSmall? (x : Enclosure p) : Option (Enclosure p) := do
  let a ← halveTangent? x
  let b ← halveTangent? a
  let c ← halveTangent? b
  let square := c.mul c
  let angle ← series (fun k part => part.divNat (2 * k + 1))
    (fun _ part => (part.mul square).neg) c
  return angle.mulInt 8

/-- The inverse tangent. Past one it is a right angle less the inverse tangent of
the inverse. -/
def atan? (x : Enclosure p) : Option (Enclosure p) := do
  if 2 ^ p < x.lo then
    let pi ← pi?
    let a ← atanSmall? (← x.inverse?)
    return (pi.divNat 2).sub a
  else if x.hi < -(2 ^ p) then
    let pi ← pi?
    let a ← atanSmall? (← x.neg.inverse?)
    return a.sub (pi.divNat 2)
  else atanSmall? x

end Enclosure

end TexMarkup
