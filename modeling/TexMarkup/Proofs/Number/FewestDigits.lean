import TexMarkup.Number.Shortest
import TexMarkup.Proofs.Number.Magnitude

/-!
# Fewest digits

Of all decimals that are rounded to a double one with the fewest digits is written, and of those
with as many digits one that is nearest to the double. Seventeen digits are always enough.

What carries this is that no decimal with a given number of digits lies between the two that are
tried, and that all numbers between a double and one that is rounded to it are rounded to it.

## Main definitions

* `HasDigits`: the numbers that are written with so many digits.
* `Double.LeastDigits`: the numbers with which a positive double may be written.
* `Decimal.IsShortest`: the decimals with which a double may be written.

## Main results

* `Double.le_lower_or_upper_le`: no decimal with so many digits lies between the two.
* `Double.withDigits?_seventeen`: seventeen digits are enough.
* `Double.isShortest_shortest`: the decimal that is written.
-/

namespace TexMarkup

/-- So many digits and a power of ten are enough to write the number. -/
def HasDigits (count : Nat) (m : ℚ) : Prop :=
  ∃ (digits : Nat) (exponent : ℤ), digits < 10 ^ count ∧ m = digits * 10 ^ exponent

/-- The number has at most seventeen digits, no decimal that is rounded to the positive double of
this rank has fewer of them, and none with as many is nearer to the double. -/
def Double.LeastDigits (rank : Nat) (m : ℚ) : Prop :=
  ∃ count ≤ 17, HasDigits count m ∧
    ∀ d : Decimal, d.rank = rank →
      (∀ fewer < count, ¬ HasDigits fewer d.magnitude) ∧
        (HasDigits count d.magnitude →
          |m - Double.value false rank| ≤ |d.magnitude - Double.value false rank|)

/-- The decimal is rounded to the double with this sign and rank, with as few digits as possible. -/
structure Decimal.IsShortest (d : Decimal) (negative : Bool) (rank : Nat) : Prop where
  toDouble_eq : d.toDouble = Double.ofRank negative rank
  leastDigits : Double.LeastDigits rank d.magnitude

namespace Double

open Decimal

variable {d d' : Decimal} {rank count : Nat} {exponent : ℤ}

/-- The value of a positive double. -/
theorem value_false (rank : Nat) : value false rank = units rank / unitsPerOne :=
  rfl

/-! ## All digits -/

theorem magnitude_exactDecimal (rank : Nat) :
    (exactDecimal rank).magnitude * unitsPerOne = units rank := by
  have written : (exactDecimal rank).magnitude =
      ((units rank * 5 ^ 1074 : ℕ) : ℚ) * (10 ^ 1074)⁻¹ := rfl
  have ten : (10 : ℚ) ^ 1074 = 2 ^ 1074 * 5 ^ 1074 := by
    have ten : (10 : ℚ) = 2 * 5 := by norm_num
    rw [ten, mul_pow]
  have two : (2 : ℚ) ^ 1074 ≠ 0 := pow_ne_zero _ (by norm_num)
  have five : (5 : ℚ) ^ 1074 ≠ 0 := pow_ne_zero _ (by norm_num)
  rw [written, ten, unitsPerOne, Nat.cast_mul, Nat.cast_pow, Nat.cast_pow, Nat.cast_ofNat,
    Nat.cast_ofNat]
  generalize (2 : ℚ) ^ 1074 = a at two ⊢
  generalize (5 : ℚ) ^ 1074 = b at five ⊢
  field_simp

/-- Every magnitude is a decimal with enough digits. -/
theorem rank_exactDecimal (finite : rank < rankCount) : (exactDecimal rank).rank = rank := by
  have compares (r : Nat) (inside : r < rankCount) : (exactDecimal rank).rank ≤ r ↔ rank ≤ r := by
    rw [Decimal.rank_le_iff _ inside, magnitude_exactDecimal, roundsUpTo_units_iff]
  have le := (compares rank finite).mpr le_rfl
  exact Nat.le_antisymm le ((compares _ (le.trans_lt finite)).mp le_rfl)

theorem magnitude_exactDecimal_eq (rank : Nat) : (exactDecimal rank).magnitude = value false rank :=
  (eq_div_iff unitsPerOne_pos.ne').mpr (magnitude_exactDecimal rank)

/-! ## Between doubles -/

/-- A decimal that is rounded to a positive double is not zero. -/
theorem magnitude_ne_zero_of_rank (positive : 0 < rank) (finite : rank < rankCount)
    (reads : d.rank = rank) : d.magnitude ≠ 0 := by
  intro zero
  have small : d.rank ≤ 0 := by
    have noUnits : (units 0 : ℚ) = 0 := by rw [units_zero, Nat.cast_zero]
    rw [Decimal.rank_le_iff _ (positive.trans finite), zero, zero_mul, ← noUnits,
      roundsUpTo_units_iff]
  rw [reads] at small
  exact absurd positive (Nat.not_lt.mpr small)

/-- A greater decimal has no lower rank. -/
theorem rank_mono (le : d.magnitude ≤ d'.magnitude) (finite : d'.rank < rankCount) :
    d.rank ≤ d'.rank := by
  have upTo := (d'.rank_le_iff finite).mp le_rfl
  refine (d.rank_le_iff finite).mpr (upTo.anti ?_)
  exact mul_le_mul_of_nonneg_right le unitsPerOne_pos.le

/-- Numbers between a double and a decimal that is rounded to it are rounded to it, too. -/
theorem rank_of_between (finite : rank < rankCount) (reads : d'.rank = rank)
    (between : d'.magnitude ≤ d.magnitude ∧ d.magnitude ≤ value false rank ∨
      value false rank ≤ d.magnitude ∧ d.magnitude ≤ d'.magnitude) : d.rank = rank := by
  rw [← magnitude_exactDecimal_eq] at between
  have exactRank := rank_exactDecimal finite
  have exactFinite := exactRank.trans_lt finite
  have readsFinite := reads.trans_lt finite
  rcases between with ⟨above, below⟩ | ⟨above, below⟩
  · have le := (rank_mono below exactFinite).trans_eq exactRank
    have ge := reads.symm.trans_le (rank_mono above (le.trans_lt finite))
    exact Nat.le_antisymm le ge
  · have le := (rank_mono below readsFinite).trans_eq reads
    have ge := exactRank.symm.trans_le (rank_mono above (le.trans_lt finite))
    exact Nat.le_antisymm le ge

/-! ## The decimals that are tried -/

theorem units_pos (positive : 0 < rank) : 0 < units rank :=
  Nat.zero_lt_of_lt (units_strictMono positive)

/-- The position in front of the first digit: the magnitude is scaled up far enough to have a whole
part, which has as many digits. -/
theorem decimalPosition_bounds (positive : 0 < rank) :
    10 ^ (decimalPosition rank - 1) ≤ value false rank ∧
      value false rank < 10 ^ decimalPosition rank := by
  have onePos : 0 < unitsPerOne := by exact_mod_cast unitsPerOne_pos
  have scaled : unitsPerOne ≤ units rank * 10 ^ 400 :=
    calc unitsPerOne ≤ 10 ^ 400 := by decide +kernel
      _ ≤ units rank * 10 ^ 400 := Nat.le_mul_of_pos_left _ (units_pos positive)
  have nonzero : units rank * 10 ^ 400 / unitsPerOne ≠ 0 := (Nat.div_pos scaled onePos).ne'
  obtain ⟨least, most⟩ := digitCount_bounds nonzero
  have some := digitCount_pos nonzero
  rw [decimalPosition]
  generalize digitCount (units rank * 10 ^ 400 / unitsPerOne) = count at least most some ⊢
  rw [Nat.le_div_iff_mul_le onePos, ← Nat.cast_le (α := ℚ)] at least
  rw [Nat.div_lt_iff_lt_mul onePos, ← Nat.cast_lt (α := ℚ)] at most
  simp only [Nat.cast_mul, Nat.cast_pow, Nat.cast_ofNat] at least most
  have scale : (0 : ℚ) < 10 ^ 400 := pow_pos (by norm_num) _
  constructor
  · have split : ((count : ℤ) - 400 - 1) = ((count - 1 : ℕ) : ℤ) - (400 : ℕ) := by omega
    rw [split, zpow_sub₀ (by norm_num), zpow_natCast, zpow_natCast, value_false,
      div_le_div_iff₀ scale unitsPerOne_pos]
    exact least
  · have split : ((count : ℤ) - 400) = (count : ℤ) - (400 : ℕ) := rfl
    rw [split, zpow_sub₀ (by norm_num), zpow_natCast, zpow_natCast, value_false,
      div_lt_div_iff₀ unitsPerOne_pos scale]
    exact most

theorem inPowerOfTen_spec (rank : Nat) (exponent : ℤ) :
    0 < (inPowerOfTen rank exponent).2 ∧
      value false rank =
        (inPowerOfTen rank exponent).1 / (inPowerOfTen rank exponent).2 * 10 ^ exponent := by
  have onePos : 0 < unitsPerOne := by exact_mod_cast unitsPerOne_pos
  have ten : (10 : ℚ) ≠ 0 := by norm_num
  rw [inPowerOfTen]
  split
  case isTrue nonneg =>
    obtain ⟨n, rfl⟩ := Int.eq_ofNat_of_zero_le nonneg
    refine ⟨Nat.mul_pos onePos (Nat.pow_pos (by decide)), ?_⟩
    rw [Int.toNat_natCast, zpow_natCast, Nat.cast_mul, Nat.cast_pow, Nat.cast_ofNat, value_false,
      ← div_div, div_mul_cancel₀ _ (pow_ne_zero _ ten)]
  case isFalse negative =>
    obtain ⟨n, same⟩ := Int.eq_ofNat_of_zero_le (by omega : 0 ≤ -exponent)
    obtain rfl : exponent = -n := by omega
    refine ⟨onePos, ?_⟩
    rw [neg_neg, Int.toNat_natCast, zpow_neg, zpow_natCast, Nat.cast_mul, Nat.cast_pow,
      Nat.cast_ofNat, value_false, mul_div_right_comm, mul_inv_cancel_right₀ (pow_ne_zero _ ten)]

/-- As many powers of ten as fit into the magnitude. -/
def wholePart (rank : Nat) (exponent : ℤ) : Nat :=
  (inPowerOfTen rank exponent).1 / (inPowerOfTen rank exponent).2

theorem wholePart_bounds (rank : Nat) (exponent : ℤ) :
    wholePart rank exponent * (10 : ℚ) ^ exponent ≤ value false rank ∧
      value false rank < (wholePart rank exponent + 1) * (10 : ℚ) ^ exponent := by
  obtain ⟨pos, same⟩ := inPowerOfTen_spec rank exponent
  have power : (0 : ℚ) < 10 ^ exponent := zpow_pos (by norm_num) _
  have posDen : (0 : ℚ) < (inPowerOfTen rank exponent).2 := Nat.cast_pos.mpr pos
  rw [same, mul_le_mul_iff_left₀ power, mul_lt_mul_iff_left₀ power, wholePart, le_div_iff₀ posDen,
    div_lt_iff₀ posDen]
  constructor
  · exact_mod_cast Nat.div_mul_le_self _ _
  · exact_mod_cast (Nat.div_lt_iff_lt_mul pos).mp (Nat.lt_succ_self _)

/-- The greatest decimal with so many digits that is not above the magnitude. -/
def lower (rank count : Nat) : Decimal :=
  ⟨false, wholePart rank (decimalPosition rank - count), decimalPosition rank - count⟩

/-- The decimal that comes next. -/
def upper (rank count : Nat) : Decimal :=
  ⟨false, wholePart rank (decimalPosition rank - count) + 1, decimalPosition rank - count⟩

theorem magnitude_lower (rank count : Nat) : (lower rank count).magnitude =
    wholePart rank (decimalPosition rank - count) * 10 ^ (decimalPosition rank - count) :=
  rfl

theorem magnitude_upper (rank count : Nat) : (upper rank count).magnitude =
    (wholePart rank (decimalPosition rank - count) + 1) * 10 ^ (decimalPosition rank - count) := by
  rw [upper, Decimal.magnitude, Nat.cast_succ]

/-- The lower decimal has so many digits, and the first one is not zero. -/
theorem wholePart_digits (positive : 0 < rank) (some : 0 < count) :
    10 ^ (count - 1) ≤ wholePart rank (decimalPosition rank - count) ∧
      wholePart rank (decimalPosition rank - count) < 10 ^ count := by
  obtain ⟨least, most⟩ := decimalPosition_bounds positive
  obtain ⟨le, less⟩ := wholePart_bounds rank (decimalPosition rank - count)
  have power : (0 : ℚ) < 10 ^ (decimalPosition rank - count) := zpow_pos (by norm_num) _
  have ten : (10 : ℚ) ≠ 0 := by norm_num
  constructor
  · have split : decimalPosition rank - 1 = (count - 1 : ℕ) + (decimalPosition rank - count) := by
      omega
    rw [split, zpow_add₀ ten, zpow_natCast] at least
    have less := lt_of_mul_lt_mul_right (least.trans_lt less) power.le
    exact Nat.le_of_lt_succ (by exact_mod_cast less)
  · have split : (10 : ℚ) ^ decimalPosition rank =
        10 ^ count * 10 ^ (decimalPosition rank - count) := by
      rw [← zpow_natCast, ← zpow_add₀ ten, add_sub_cancel]
    rw [split] at most
    have less := lt_of_mul_lt_mul_right (le.trans_lt most) power.le
    exact_mod_cast less

theorem hasDigits_lower (positive : 0 < rank) (some : 0 < count) :
    HasDigits count (lower rank count).magnitude :=
  ⟨_, _, (wholePart_digits positive some).2, magnitude_lower rank count⟩

theorem hasDigits_upper (positive : 0 < rank) (some : 0 < count) :
    HasDigits count (upper rank count).magnitude := by
  have next := Nat.succ_le_of_lt (wholePart_digits positive some).2
  rcases Nat.lt_or_eq_of_le next with less | same
  · refine ⟨_, decimalPosition rank - count, less, ?_⟩
    rw [magnitude_upper, Nat.cast_succ]
  · -- Behind the last number with so many digits comes a power of ten.
    refine ⟨1, count + (decimalPosition rank - count), Nat.one_lt_pow some.ne' (by decide), ?_⟩
    rw [magnitude_upper, ← Nat.cast_succ, same, zpow_add₀ (by norm_num), zpow_natCast, Nat.cast_one,
      one_mul, Nat.cast_pow, Nat.cast_ofNat]

/-- No decimal with so many digits lies between the two. -/
theorem le_lower_or_upper_le (positive : 0 < rank) (some : 0 < count) {m : ℚ}
    (digits : HasDigits count m) :
    m ≤ (lower rank count).magnitude ∨ (upper rank count).magnitude ≤ m := by
  obtain ⟨whole, power, less, rfl⟩ := digits
  obtain ⟨first, -⟩ := wholePart_digits positive some
  rw [magnitude_lower, magnitude_upper]
  generalize wholePart rank (decimalPosition rank - count) = k at first ⊢
  generalize decimalPosition rank - count = exponent
  have ten : (10 : ℚ) ≠ 0 := by norm_num
  rcases le_or_gt exponent power with le | small
  · -- Both are whole numbers of the same power of ten.
    obtain ⟨n, rfl⟩ := Int.le.dest le
    have same : (whole : ℚ) * 10 ^ (exponent + n) = (whole * 10 ^ n : ℕ) * 10 ^ exponent := by
      rw [zpow_add₀ ten, zpow_natCast]
      push_cast
      ring
    have pos : (0 : ℚ) < 10 ^ exponent := zpow_pos (by norm_num) _
    rw [same, mul_le_mul_iff_left₀ pos, mul_le_mul_iff_left₀ pos]
    norm_cast
    exact Nat.lt_or_ge k _ |>.symm
  · -- The digits of a smaller power of ten do not reach the first digit.
    refine .inl ?_
    have less : (whole : ℚ) ≤ 10 ^ count := by exact_mod_cast less.le
    have first : (10 : ℚ) ^ (count - 1) ≤ k := by exact_mod_cast first
    calc (whole : ℚ) * 10 ^ power ≤ 10 ^ count * 10 ^ power :=
          mul_le_mul_of_nonneg_right less (zpow_nonneg (by norm_num) _)
      _ = 10 ^ (count + power) := by rw [zpow_add₀ ten, zpow_natCast]
      _ ≤ 10 ^ ((count - 1 : ℕ) + exponent) := zpow_le_zpow_right₀ (by norm_num) (by omega)
      _ = 10 ^ (count - 1) * 10 ^ exponent := by rw [zpow_add₀ ten, zpow_natCast]
      _ ≤ k * 10 ^ exponent := mul_le_mul_of_nonneg_right first (zpow_nonneg (by norm_num) _)

/-! ## Choosing between the two -/

theorem rank_of_readingBack? {nearer : Bool} {below above : Decimal}
    (found : readingBack? rank nearer below above = some d) : d.rank = rank := by
  unfold readingBack? at found
  split at found
  case h_1 first second =>
    cases found
    split
    · exact of_decide_eq_true first
    · exact of_decide_eq_true second
  case h_2 first _ =>
    cases found
    exact of_decide_eq_true first
  case h_3 _ second =>
    cases found
    exact of_decide_eq_true second
  case h_4 => cases found

/-- A decimal with so many digits is only taken if it is rounded to the rank. -/
theorem rank_of_withDigits? (found : withDigits? rank count = some d) : d.rank = rank :=
  rank_of_readingBack? found

theorem readingBack?_eq_some {nearer : Bool} {below above : Decimal}
    (found : readingBack? rank nearer below above = some d) :
    d.rank = rank ∧ (d = below ∧ (above.rank = rank → nearer = true) ∨
      d = above ∧ (below.rank = rank → nearer = false)) := by
  refine ⟨rank_of_readingBack? found, ?_⟩
  unfold readingBack? at found
  split at found
  case h_1 =>
    cases found
    cases nearer
    · exact .inr ⟨rfl, fun _ => rfl⟩
    · exact .inl ⟨rfl, fun _ => rfl⟩
  case h_2 _ second =>
    cases found
    exact .inl ⟨rfl, fun reads => absurd reads (of_decide_eq_false second)⟩
  case h_3 first _ =>
    cases found
    exact .inr ⟨rfl, fun reads => absurd reads (of_decide_eq_false first)⟩
  case h_4 => cases found

theorem readingBack?_eq_none {nearer : Bool} {below above : Decimal}
    (none : readingBack? rank nearer below above = none) :
    below.rank ≠ rank ∧ above.rank ≠ rank := by
  unfold readingBack? at none
  split at none
  case h_4 first second => exact ⟨of_decide_eq_false first, of_decide_eq_false second⟩
  all_goals cases none

/-- Whether the lower decimal is nearer to the magnitude than the upper one. -/
def lowerIsNearer (rank count : Nat) : Bool :=
  2 * ((inPowerOfTen rank (decimalPosition rank - count)).1 %
    (inPowerOfTen rank (decimalPosition rank - count)).2) <
    (inPowerOfTen rank (decimalPosition rank - count)).2

theorem withDigits?_eq (rank count : Nat) : withDigits? rank count =
    readingBack? rank (lowerIsNearer rank count) (lower rank count) (upper rank count) :=
  rfl

theorem lowerIsNearer_iff (rank count : Nat) : lowerIsNearer rank count = true ↔
    value false rank - (lower rank count).magnitude <
      (upper rank count).magnitude - value false rank := by
  rw [magnitude_lower, magnitude_upper, lowerIsNearer, decide_eq_true_iff, wholePart]
  obtain ⟨pos, same⟩ := inPowerOfTen_spec rank (decimalPosition rank - count)
  have power : (0 : ℚ) < 10 ^ (decimalPosition rank - count) := zpow_pos (by norm_num) _
  rw [same, ← sub_mul, ← sub_mul, mul_lt_mul_iff_left₀ power]
  generalize (inPowerOfTen rank (decimalPosition rank - count)).1 = num
  generalize (inPowerOfTen rank (decimalPosition rank - count)).2 = den at pos ⊢
  have posDen : (0 : ℚ) < den := Nat.cast_pos.mpr pos
  have split : (num : ℚ) = den * (num / den : ℕ) + (num % den : ℕ) := by
    exact_mod_cast (Nat.div_add_mod num den).symm
  -- The rest of the division is what the lower decimal falls short of.
  have below : (num : ℚ) / den - (num / den : ℕ) = (num % den : ℕ) / den := by
    rw [div_sub' posDen.ne', div_left_inj' posDen.ne']
    linarith
  have above : ((num / den : ℕ) : ℚ) + 1 - num / den = (den - (num % den : ℕ)) / den := by
    rw [sub_div' posDen.ne', div_left_inj' posDen.ne']
    linarith
  rw [below, above, div_lt_div_iff_of_pos_right posDen, lt_sub_iff_add_lt, ← two_mul]
  norm_cast

/-! ## The decimal that is written -/

theorem magnitude_lower_le (rank count : Nat) : (lower rank count).magnitude ≤ value false rank :=
  (wholePart_bounds rank _).1

theorem lt_magnitude_upper (rank count : Nat) :
    value false rank < (upper rank count).magnitude := by
  rw [magnitude_upper]
  exact (wholePart_bounds rank _).2

/-- With so many digits a decimal is rounded to the double only if one of the two is. -/
theorem rank_ne_of_withDigits?_eq_none (positive : 0 < rank) (finite : rank < rankCount)
    (some : 0 < count) (none : withDigits? rank count = none)
    (digits : HasDigits count d.magnitude) : d.rank ≠ rank := by
  intro reads
  rw [withDigits?_eq] at none
  obtain ⟨notLower, notUpper⟩ := readingBack?_eq_none none
  -- One of the two lies between the double and the decimal.
  rcases le_lower_or_upper_le positive some digits with le | le
  · exact notLower (rank_of_between finite reads (.inl ⟨le, magnitude_lower_le rank count⟩))
  · exact notUpper (rank_of_between finite reads (.inr ⟨(lt_magnitude_upper rank count).le, le⟩))

/-- Of all decimals with so many digits that are rounded to the double a nearest one is taken. -/
theorem nearest_of_withDigits? (positive : 0 < rank) (finite : rank < rankCount) (some : 0 < count)
    (found : withDigits? rank count = .some d) (digits : HasDigits count d'.magnitude)
    (reads : d'.rank = rank) :
    |d.magnitude - value false rank| ≤ |d'.magnitude - value false rank| := by
  have below := magnitude_lower_le rank count
  have above := lt_magnitude_upper rank count
  have nearer := lowerIsNearer_iff rank count
  rw [withDigits?_eq] at found
  obtain ⟨-, ⟨rfl, chosen⟩ | ⟨rfl, chosen⟩⟩ := readingBack?_eq_some found
  · rw [abs_sub_comm, abs_of_nonneg (sub_nonneg.mpr below)]
    rcases le_lower_or_upper_le positive some digits with le | le
    · rw [abs_sub_comm]
      exact (sub_le_sub_left le _).trans (le_abs_self _)
    · have upperReads := rank_of_between finite reads (.inr ⟨above.le, le⟩)
      have less := nearer.mp (chosen upperReads)
      exact (less.le.trans (sub_le_sub_right le _)).trans (le_abs_self _)
  · rw [abs_of_pos (sub_pos.mpr above)]
    rcases le_lower_or_upper_le positive some digits with le | le
    · have lowerReads := rank_of_between finite reads (.inl ⟨le, below⟩)
      have notNearer := mt nearer.mpr (Bool.eq_false_iff.mp (chosen lowerReads))
      rw [abs_sub_comm]
      exact ((not_lt.mp notNearer).trans (sub_le_sub_left le _)).trans (le_abs_self _)
    · exact (sub_le_sub_right le _).trans (le_abs_self _)

/-- A decimal that differs in the seventeenth digit only, and by no more than half of it, is
rounded to the double: magnitudes that are next to each other differ more than that. -/
theorem rank_of_near (positive : 0 < rank) (finite : rank < rankCount)
    (near : 2 * 10 ^ 16 * |d.magnitude - value false rank| ≤ value false rank) : d.rank = rank := by
  have near : |d.magnitude * unitsPerOne - units rank| ≤ units rank / (2 * 10 ^ 16) := by
    have scaled : d.magnitude * unitsPerOne - units rank =
        (d.magnitude - value false rank) * unitsPerOne := by
      rw [sub_mul, value_false, div_mul_cancel₀ _ unitsPerOne_pos.ne']
    rw [scaled, abs_mul, abs_of_pos unitsPerOne_pos, le_div_iff₀' (by norm_num), ← mul_assoc,
      ← le_div_iff₀ unitsPerOne_pos]
    exact near
  obtain ⟨least, most⟩ := abs_le.mp near
  have pos : (0 : ℚ) < units rank := Nat.cast_pos.mpr (units_pos positive)
  have gap (r : Nat) : (units (r + 1) + 2 ^ 53 * units r : ℚ) ≤ 2 ^ 53 * units (r + 1) := by
    exact_mod_cast units_succ_le r
  refine Nat.le_antisymm ?_ (Nat.le_of_not_lt fun less => ?_)
  · have behind := gap rank
    exact (d.rank_le_iff finite).mpr (.inl (by linarith))
  · obtain ⟨previous, rfl⟩ : ∃ previous, rank = previous + 1 := ⟨rank - 1, by omega⟩
    have front := gap previous
    have upTo := (d.rank_le_iff (Nat.lt_of_succ_lt finite)).mp (Nat.le_of_lt_succ less)
    have middle : 2 * (d.magnitude * unitsPerOne) ≤ units previous + units (previous + 1) :=
      upTo.elim le_of_lt fun h => h.1.le
    linarith

/-- One of the two decimals with seventeen digits is near enough. -/
theorem withDigits?_seventeen (positive : 0 < rank) (finite : rank < rankCount) :
    withDigits? rank 17 ≠ none := by
  intro none
  rw [withDigits?_eq] at none
  obtain ⟨notLower, notUpper⟩ := readingBack?_eq_none none
  have below := magnitude_lower_le rank 17
  have above := lt_magnitude_upper rank 17
  have apart :
      10 ^ 16 * ((upper rank 17).magnitude - (lower rank 17).magnitude) ≤ value false rank := by
    have power : (10 : ℚ) ^ 16 * 10 ^ (decimalPosition rank - (17 : ℕ)) =
        10 ^ (decimalPosition rank - 1) := by
      rw [← zpow_natCast, ← zpow_add₀ (by norm_num)]
      congr 1
      omega
    rw [magnitude_upper, magnitude_lower, add_mul, one_mul, add_sub_cancel_left, power]
    exact (decimalPosition_bounds positive).1
  rcases le_total (value false rank - (lower rank 17).magnitude)
    ((upper rank 17).magnitude - value false rank) with le | le
  · refine notLower (rank_of_near positive finite ?_)
    rw [abs_sub_comm, abs_of_nonneg (sub_nonneg.mpr below)]
    linarith
  · refine notUpper (rank_of_near positive finite ?_)
    rw [abs_of_pos (sub_pos.mpr above)]
    linarith

/-- What is found first is found with the least count. -/
theorem exists_least_of_findSome? {f : Nat → Option Decimal} {most : Nat}
    (found : ((List.range most).map (· + 1)).findSome? f = some d) :
    ∃ count, 0 < count ∧ count ≤ most ∧ f count = some d ∧
      ∀ fewer < count, 0 < fewer → f fewer = none := by
  obtain ⟨before, count, behind, counts, found, none⟩ := List.findSome?_eq_some_iff.mp found
  have ordered : ((List.range most).map (· + 1)).Pairwise (· < ·) :=
    List.pairwise_lt_range.map _ fun _ _ => Nat.succ_lt_succ
  have mem {n : Nat} : n ∈ before ++ count :: behind ↔ 0 < n ∧ n ≤ most := by
    rw [← counts, List.mem_map]
    constructor
    · rintro ⟨k, inside, rfl⟩
      exact ⟨k.succ_pos, List.mem_range.mp inside⟩
    · rintro ⟨pos, le⟩
      exact ⟨n - 1, List.mem_range.mpr (by omega), Nat.sub_add_cancel pos⟩
  obtain ⟨pos, le⟩ := mem.mp (List.mem_append_right before List.mem_cons_self)
  refine ⟨count, pos, le, found, fun fewer less pos => none fewer ?_⟩
  rw [counts] at ordered
  have later := (List.pairwise_cons.mp (List.pairwise_append.mp ordered).2.1).1
  rcases List.mem_append.mp (mem.mpr ⟨pos, less.le.trans le⟩) with inside | rest
  · exact inside
  · rcases List.mem_cons.mp rest with same | behind
    · exact absurd same less.ne
    · exact absurd (later fewer behind) less.not_gt

theorem hasDigits_of_withDigits? (positive : 0 < rank) (some : 0 < count)
    (found : withDigits? rank count = .some d) : HasDigits count d.magnitude := by
  rw [withDigits?_eq] at found
  obtain ⟨-, ⟨rfl, -⟩ | ⟨rfl, -⟩⟩ := readingBack?_eq_some found
  · exact hasDigits_lower positive some
  · exact hasDigits_upper positive some

/-- Without digits there is only zero. -/
theorem not_hasDigits_zero (positive : 0 < rank) (finite : rank < rankCount)
    (reads : d.rank = rank) : ¬ HasDigits 0 d.magnitude := by
  rintro ⟨digits, exponent, less, zero⟩
  obtain rfl : digits = 0 := Nat.lt_one_iff.mp less
  rw [Nat.cast_zero, zero_mul] at zero
  exact magnitude_ne_zero_of_rank positive finite reads zero

/-- The decimal that is written is rounded to the double. -/
theorem rank_shortest (finite : rank < rankCount) : (shortest rank).rank = rank := by
  have found (counts : List Nat) :
      ((counts.findSome? (withDigits? rank)).getD (exactDecimal rank)).rank = rank := by
    cases found : counts.findSome? (withDigits? rank) with
    | none => exact rank_exactDecimal finite
    | some d =>
      obtain ⟨count, -, found⟩ := List.exists_of_findSome?_eq_some found
      exact rank_of_withDigits? found
  exact found _

/-- The decimal that is written has the fewest digits. -/
theorem leastDigits_shortest (positive : 0 < rank) (finite : rank < rankCount) :
    LeastDigits rank (shortest rank).magnitude := by
  rw [shortest]
  cases found : ((List.range 17).map (· + 1)).findSome? (withDigits? rank) with
  | none =>
    have notFound := List.findSome?_eq_none_iff.mp found 17 (by decide)
    exact absurd notFound (withDigits?_seventeen positive finite)
  | some chosen =>
    obtain ⟨count, pos, le, found, none⟩ := exists_least_of_findSome? found
    rw [Option.getD_some]
    refine ⟨count, le, hasDigits_of_withDigits? positive pos found, fun d reads => ⟨?_, ?_⟩⟩
    · intro fewer less digits
      rcases Nat.eq_zero_or_pos fewer with rfl | pos
      · exact not_hasDigits_zero positive finite reads digits
      · exact rank_ne_of_withDigits?_eq_none positive finite pos (none fewer less pos) digits reads
    · exact fun digits => nearest_of_withDigits? positive finite pos found digits reads

/-- The sign has nothing to do with the number of digits. -/
theorem isShortest_with_sign (negative : Bool) (reads : d.rank = rank)
    (least : LeastDigits rank d.magnitude) : IsShortest { d with negative } negative rank :=
  ⟨by rw [toDouble_with_sign, reads], least⟩

/-- The decimal that is written, with the sign of the double. -/
theorem isShortest_shortest (negative : Bool) (positive : 0 < rank) (finite : rank < rankCount) :
    IsShortest { shortest rank with negative } negative rank :=
  isShortest_with_sign negative (rank_shortest finite) (leastDigits_shortest positive finite)

end Double

/-- No digits are needed for zero. -/
theorem Decimal.IsShortest.zero (negative : Bool) : IsShortest ⟨negative, 0, 0⟩ negative 0 := by
  refine ⟨rfl, 0, Nat.zero_le 17, ⟨0, 0, Nat.one_pos, rfl⟩, fun d _ => ⟨?_, fun _ => ?_⟩⟩
  · exact fun fewer less => absurd less (Nat.not_lt_zero fewer)
  · have noUnits : Double.value false 0 = 0 := by
      rw [Double.value_false, Double.units_zero, Nat.cast_zero, zero_div]
    rw [magnitude_of_zero, noUnits, sub_zero, abs_zero]
    exact abs_nonneg _

end TexMarkup
