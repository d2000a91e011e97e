import Mathlib.Algebra.Order.Field.Power
import TexMarkup.Number.Decimal
import TexMarkup.Proofs.Number.Rounding

/-!
# Decimals as numbers

A decimal is rounded to a double by its value alone: by its digits and its power of ten where
that is worth computing, and by the position of its first digit where it is not. Either way the
double is the one to which the value is rounded.

## Main definitions

* `Decimal.magnitude`, `Decimal.value`: the exact number.

## Main results

* `Decimal.rank_le_iff`: the rank of a decimal is compared with the middles.
* `Decimal.toDouble_isNearest`: a decimal is rounded to a nearest double.
* `Decimal.toDouble_congr`: the double depends on the value only.
-/

namespace TexMarkup

open Double

namespace Decimal

variable {d d' : Decimal} {n rank : Nat}

/-- The decimal without its sign. -/
def magnitude (d : Decimal) : ℚ :=
  d.digits * 10 ^ d.exponent

/-- The number that the decimal denotes. -/
def value (d : Decimal) : ℚ :=
  signed d.negative d.magnitude

theorem magnitude_nonneg (d : Decimal) : 0 ≤ d.magnitude :=
  mul_nonneg (Nat.cast_nonneg _) (zpow_nonneg (by norm_num) _)

theorem magnitude_of_zero (negative : Bool) (exponent : ℤ) :
    magnitude ⟨negative, 0, exponent⟩ = 0 := by
  rw [magnitude, Nat.cast_zero, zero_mul]

theorem value_of_zero (negative : Bool) (exponent : ℤ) : value ⟨negative, 0, exponent⟩ = 0 := by
  rw [value, magnitude_of_zero, signed_zero]

theorem magnitude_of_nonneg (nonneg : 0 ≤ d.exponent) :
    d.magnitude = d.digits * 10 ^ d.exponent.toNat := by
  rw [magnitude, ← zpow_natCast, Int.toNat_of_nonneg nonneg]

theorem magnitude_of_neg (negative : d.exponent < 0) :
    d.magnitude = d.digits / 10 ^ (-d.exponent).toNat := by
  rw [magnitude, ← zpow_natCast, Int.toNat_of_nonneg (by omega), zpow_neg, div_inv_eq_mul]

/-! ## The position of the first digit -/

theorem digitCount_bounds (nonzero : n ≠ 0) :
    10 ^ (digitCount n - 1) ≤ n ∧ n < 10 ^ digitCount n := by
  rw [digitCount, if_neg nonzero]
  have some : 0 < (Nat.toDigits 10 n).length := Nat.length_toDigits_pos
  refine ⟨?_, (Nat.length_toDigits_le_iff (by decide) some).mp le_rfl⟩
  by_cases single : (Nat.toDigits 10 n).length = 1
  · rw [single]
    exact Nat.one_le_iff_ne_zero.mpr nonzero
  · refine Nat.le_of_not_lt fun less => ?_
    have shorter := (Nat.length_toDigits_le_iff (by decide) (by omega)).mpr less
    omega

theorem digitCount_pos (nonzero : n ≠ 0) : 0 < digitCount n := by
  rw [digitCount, if_neg nonzero]
  exact Nat.length_toDigits_pos

theorem magnitude_lt (nonzero : d.digits ≠ 0) :
    d.magnitude < 10 ^ (digitCount d.digits + d.exponent) := by
  have less : (d.digits : ℚ) < 10 ^ digitCount d.digits := by
    exact_mod_cast (digitCount_bounds nonzero).2
  rw [magnitude, zpow_add₀ (by norm_num), zpow_natCast]
  exact mul_lt_mul_of_pos_right less (zpow_pos (by norm_num) _)

theorem le_magnitude (nonzero : d.digits ≠ 0) :
    10 ^ (digitCount d.digits + d.exponent - 1) ≤ d.magnitude := by
  have le : (10 : ℚ) ^ (digitCount d.digits - 1) ≤ d.digits := by
    exact_mod_cast (digitCount_bounds nonzero).1
  have position : (digitCount d.digits + d.exponent - 1 : ℤ) =
      (digitCount d.digits - 1 : ℕ) + d.exponent := by
    have := digitCount_pos nonzero
    omega
  rw [position, magnitude, zpow_add₀ (by norm_num), zpow_natCast]
  exact mul_le_mul_of_nonneg_right le (zpow_nonneg (by norm_num) _)

/-! ## Rounding -/

/-- A magnitude far below the least positive double is nearest to zero. -/
theorem roundsUpTo_of_lt (small : d.magnitude < 10 ^ (-330 : ℤ)) :
    RoundsUpTo (d.magnitude * unitsPerOne) rank := by
  have power : (2 * unitsPerOne : ℚ) < 10 ^ 330 := by
    have power : 2 * unitsPerOne < 10 ^ 330 := by decide +kernel
    simpa only [Nat.cast_mul, Nat.cast_pow, Nat.cast_ofNat] using (Nat.cast_lt (α := ℚ)).mpr power
  have positive : (1 : ℚ) ≤ units (rank + 1) := by
    exact_mod_cast Nat.zero_lt_of_lt (units_lt_units_succ rank)
  have nonneg : (0 : ℚ) ≤ units rank := Nat.cast_nonneg _
  refine .inl ?_
  calc 2 * (d.magnitude * unitsPerOne) = d.magnitude * (2 * unitsPerOne) := by ring
    _ ≤ 10 ^ (-330 : ℤ) * (2 * unitsPerOne) := by
      refine mul_le_mul_of_nonneg_right small.le ?_
      exact mul_nonneg (by norm_num) (Nat.cast_nonneg _)
    _ < 10 ^ (-330 : ℤ) * 10 ^ 330 := by
      refine mul_lt_mul_of_pos_left power ?_
      exact zpow_pos (by norm_num) _
    _ = 1 := by
      rw [zpow_neg]
      exact inv_mul_cancel₀ (by norm_num)
    _ ≤ units rank + units (rank + 1) := by linarith

/-- A magnitude far above the last finite double is not rounded to a finite one. -/
theorem not_roundsUpTo_of_le (finite : rank < rankCount) (great : 10 ^ (310 : ℤ) ≤ d.magnitude) :
    ¬ RoundsUpTo (d.magnitude * unitsPerOne) rank := by
  intro rounds
  have last := rounds.mono (Nat.le_sub_one_of_lt finite)
  rw [roundsUpTo_last_iff, mul_lt_mul_iff_left₀ unitsPerOne_pos] at last
  have power : (2 ^ 1024 : ℚ) < 10 ^ 310 := by
    have power : 2 ^ 1024 < 10 ^ 310 := by decide +kernel
    simpa only [Nat.cast_pow, Nat.cast_ofNat] using (Nat.cast_lt (α := ℚ)).mpr power
  have gap : (0 : ℚ) ≤ 2 ^ 970 := pow_nonneg (by norm_num) _
  have upTo := calc d.magnitude < 2 ^ 1024 - 2 ^ 970 := last
    _ ≤ 2 ^ 1024 := sub_le_self _ gap
    _ < 10 ^ 310 := power
    _ ≤ d.magnitude := great
  exact lt_irrefl _ upTo

/-- The rank of a decimal is that of the double to which its magnitude is rounded, as far as
there are finite ranks. -/
theorem rank_le_iff (d : Decimal) (finite : rank < rankCount) :
    d.rank ≤ rank ↔ RoundsUpTo (d.magnitude * unitsPerOne) rank := by
  -- Where the position of the first digit decides, the number is not near any middle.
  simp only [Decimal.rank]
  split
  case isTrue small =>
    refine iff_of_true (Nat.zero_le _) (roundsUpTo_of_lt ?_)
    by_cases zero : d.digits = 0
    · rw [magnitude, zero, Nat.cast_zero, zero_mul]
      exact zpow_pos (by norm_num) _
    · have top := small.resolve_left zero
      exact (magnitude_lt zero).trans_le (zpow_le_zpow_right₀ (by norm_num) (by omega))
  case isFalse notSmall =>
    rw [not_or] at notSmall
    split
    case isTrue great =>
      refine iff_of_false (Nat.not_le.mpr finite) (not_roundsUpTo_of_le finite ?_)
      exact (zpow_le_zpow_right₀ (by norm_num) (by omega)).trans (le_magnitude notSmall.1)
    case isFalse =>
      split
      case isTrue nonneg =>
        rw [nearestRank_le_iff Nat.zero_lt_one, magnitude_of_nonneg nonneg]
        push_cast
        rw [div_one]
      case isFalse negative =>
        rw [nearestRank_le_iff (Nat.pow_pos (by decide)), magnitude_of_neg (not_le.mp negative)]
        push_cast
        rw [div_mul_eq_mul_div]

theorem toDouble_isNearest (d : Decimal) : d.toDouble.IsNearest d.value :=
  isNearest_of_le_iff d.magnitude_nonneg fun _ => d.rank_le_iff

theorem toDouble_isFinite_iff (d : Decimal) :
    d.toDouble.isFinite = true ↔ |d.value| < 2 ^ 1024 - 2 ^ 970 := by
  have limit := rank_lt_rankCount_iff fun _ => d.rank_le_iff
  rw [value, abs_signed d.magnitude_nonneg, ← limit, toDouble, ofRank]
  split
  case isTrue finite => exact iff_of_true rfl finite
  case isFalse past => exact iff_of_false Bool.false_ne_true past

/-! ## Decimals of the same value -/

theorem ofRank_rank_congr (same : d.magnitude = d'.magnitude) (negative : Bool) :
    ofRank negative d.rank = ofRank negative d'.rank := by
  have compares (r : Nat) (finite : r < rankCount) : d.rank ≤ r ↔ d'.rank ≤ r := by
    rw [d.rank_le_iff finite, d'.rank_le_iff finite, same]
  have limit : d.rank < rankCount ↔ d'.rank < rankCount := by
    rw [rank_lt_rankCount_iff fun _ => d.rank_le_iff,
      rank_lt_rankCount_iff fun _ => d'.rank_le_iff, same]
  by_cases finite : d.rank < rankCount
  · have le := (compares d.rank finite).mp le_rfl
    have ge := (compares d'.rank (limit.mp finite)).mpr le_rfl
    rw [Nat.le_antisymm le ge]
  · rw [ofRank_of_not_lt finite, ofRank_of_not_lt (mt limit.mpr finite)]

/-- The magnitude of a decimal has nothing to do with its sign. -/
theorem value_with_sign (d : Decimal) (negative : Bool) :
    value { d with negative } = signed negative d.magnitude :=
  rfl

theorem toDouble_with_sign (d : Decimal) (negative : Bool) :
    toDouble { d with negative } = ofRank negative d.rank := by
  have same : ({ d with negative } : Decimal).magnitude = d.magnitude := rfl
  exact ofRank_rank_congr same negative

/-- A double depends on the value of the decimal only, unless that is zero. -/
theorem toDouble_congr (same : d.value = d'.value) (nonzero : d.value ≠ 0) :
    d.toDouble = d'.toDouble := by
  have magnitudes : d.magnitude = d'.magnitude := by
    rw [← abs_signed d.magnitude_nonneg, ← abs_signed d'.magnitude_nonneg]
    exact congrArg (|·|) same
  have signs : d.negative = d'.negative := by
    -- Numbers of different signs are apart unless both are zero.
    by_contra differs
    have apart := abs_signed_sub_of_ne differs d.magnitude_nonneg d.magnitude_nonneg
    rw [value, value, ← magnitudes] at same
    rw [same, sub_self, abs_zero] at apart
    have zero : d.magnitude = 0 := by linarith [d.magnitude_nonneg]
    rw [value, zero, signed_zero] at nonzero
    exact nonzero rfl
  rw [toDouble, toDouble, signs, ofRank_rank_congr magnitudes]

end Decimal

end TexMarkup
