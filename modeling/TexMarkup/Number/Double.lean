import TexMarkup.Number.Integer

/-!
# Double precision numbers

A finite double is a sign and the *rank* of its magnitude: the finite magnitudes
in increasing order are numbered from zero, and the number of a magnitude is the
pattern of its bits without the sign. Every finite magnitude is a whole multiple
of the least positive one, so the exact value of a rank is a natural number of
such *units*, of which `unitsPerOne` make the number one.

Every operation of this library that rounds computes an exact quotient of
natural numbers first and rounds it once, with `nearestRank`.

## Main definitions

* `Double`, `Double.ofBits`, `Double.toBits`.
* `Double.units`: the exact magnitude of a rank.
* `Double.nearestRank`: the rank nearest to a quotient, ties to the even rank.
* `Double.ofUnits`, `Double.ofRatio`: the double nearest to a quotient.

## Main results

* `Double.units_lt_units_succ`: a greater rank is a greater magnitude.
-/

namespace TexMarkup

/-- A number of double precision. All values that are no numbers are one. -/
inductive Double where
  /-- A finite number: its sign and the rank of its magnitude. -/
  | finite (negative : Bool) (rank : Fin (2047 * 2 ^ 52))
  /-- An infinite number. -/
  | infinite (negative : Bool)
  /-- The result of an operation that has no value. -/
  | nan
  deriving DecidableEq, Repr

namespace Double

/-- How many finite magnitudes there are. -/
def rankCount : Nat := 2047 * 2 ^ 52

/-- How many units make the number one; a unit is the least positive magnitude. -/
def unitsPerOne : Nat := 2 ^ 1074

/-- The number zero. -/
def zero (negative : Bool) : Double :=
  finite negative ⟨0, Nat.mul_pos (by decide) (Nat.two_pow_pos 52)⟩

instance : Inhabited Double := ⟨zero false⟩

/-- The double with the given rank, which is infinite when the rank is past the
last finite one. -/
def ofRank (negative : Bool) (rank : Nat) : Double :=
  if h : rank < 2047 * 2 ^ 52 then finite negative ⟨rank, h⟩ else infinite negative

/-- The double with the given bit pattern. -/
def ofBits (bits : UInt64) : Double :=
  let rank := bits.toNat % 2 ^ 63
  if rank ≤ 2047 * 2 ^ 52 then ofRank (2 ^ 63 ≤ bits.toNat) rank else nan

/-- The double nearest to π. -/
def pi : Double := ofBits 0x400921FB54442D18

/-- The double nearest to the base of the natural logarithm. -/
def naturalBase : Double := ofBits 0x4005BF0A8B145769

/-- The bit of a sign. -/
def signBit (negative : Bool) : Nat :=
  if negative then 2 ^ 63 else 0

/-- The bit pattern of a double. -/
def toBits : Double → UInt64
  | finite negative rank => UInt64.ofNat (signBit negative + rank.val)
  | infinite negative => UInt64.ofNat (signBit negative + 2047 * 2 ^ 52)
  | nan => UInt64.ofNat (2047 * 2 ^ 52 + 2 ^ 51)

/-- Whether the double is a finite number. -/
def isFinite : Double → Bool
  | finite _ _ => true
  | _ => false

/-! ## Exact values and rounding -/

/-- The number of units in the magnitude of a rank. The first two groups of
`2 ^ 52` ranks advance by one unit; after that the step doubles with each group. -/
def units (rank : Nat) : Nat :=
  if rank < 2 ^ 52 then rank else (2 ^ 52 + rank % 2 ^ 52) * 2 ^ (rank / 2 ^ 52 - 1)

/-- A finite number as a whole number of units. -/
def signedUnits (negative : Bool) (rank : Nat) : Int :=
  if negative then -(units rank : Int) else units rank

/-- The natural number nearest to a quotient; of two, the even one. -/
def roundHalfEven (num den : Nat) : Nat :=
  let q := num / den
  let r := num % den
  if 2 * r < den then q else if den < 2 * r then q + 1 else q + q % 2

/-- The rank nearest to a quotient of units; of two, the even one. Whatever lies
beyond the last finite rank gets a rank that no finite double has. -/
def nearestRank (num den : Nat) : Nat :=
  let group := Nat.log2 (num / den) - 52
  group * 2 ^ 52 + roundHalfEven num (den * 2 ^ group)

/-- The double nearest to a quotient of units. -/
def ofUnits (negative : Bool) (num den : Nat) : Double :=
  ofRank negative (nearestRank num den)

/-- The double nearest to a quotient. -/
def ofRatio (negative : Bool) (num den : Nat) : Double :=
  ofUnits negative (num * unitsPerOne) den

theorem units_lt_units_succ (rank : Nat) : units rank < units (rank + 1) := by
  have hp : 0 < 2 ^ (rank / 2 ^ 52 - 1) := Nat.two_pow_pos _
  unfold units
  by_cases h : rank + 1 < 2 ^ 52
  · rw [if_pos h, if_pos (by omega)]
    exact Nat.lt_succ_self rank
  · rw [if_neg h]
    by_cases h' : rank < 2 ^ 52
    · have : rank + 1 = 2 ^ 52 := by omega
      rw [if_pos h', this]
      simpa using h'
    · rw [if_neg h']
      by_cases hc : rank % 2 ^ 52 + 1 < 2 ^ 52
      · have hd : (rank + 1) / 2 ^ 52 = rank / 2 ^ 52 := by omega
        have hm : (rank + 1) % 2 ^ 52 = rank % 2 ^ 52 + 1 := by omega
        rw [hd, hm]
        exact Nat.mul_lt_mul_of_pos_right (by omega) hp
      · have hd : (rank + 1) / 2 ^ 52 - 1 = rank / 2 ^ 52 - 1 + 1 := by omega
        have hm : (rank + 1) % 2 ^ 52 = 0 := by omega
        rw [hd, hm, Nat.pow_succ]
        have : (2 ^ 52 + rank % 2 ^ 52) * 2 ^ (rank / 2 ^ 52 - 1) <
            (2 ^ 52 + 2 ^ 52) * 2 ^ (rank / 2 ^ 52 - 1) :=
          Nat.mul_lt_mul_of_pos_right (by omega) hp
        calc _ < (2 ^ 52 + 2 ^ 52) * 2 ^ (rank / 2 ^ 52 - 1) := this
          _ = (2 ^ 52 + 0) * (2 ^ (rank / 2 ^ 52 - 1) * 2) := by
            rw [Nat.add_zero, ← Nat.two_mul, Nat.mul_comm 2, Nat.mul_assoc, Nat.mul_comm 2]

end Double

end TexMarkup
