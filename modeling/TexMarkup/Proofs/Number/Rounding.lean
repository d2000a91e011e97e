import Mathlib.Algebra.Order.Field.Basic
import Mathlib.Data.Nat.Cast.Order.Field
import Mathlib.Data.Rat.Cast.Order
import Mathlib.Order.Monotone.Basic
import Mathlib.Tactic.FieldSimp
import Mathlib.Tactic.Linarith
import Mathlib.Tactic.Ring
import TexMarkup.Number.Double

/-!
# Correct rounding

A number of units is rounded to a rank from its leading binary digits. Seen from the ranks,
this is a comparison with the middle between neighbours: a number rounds to a rank or to one
below it as long as it is not past the middle to the next rank, and on the middle only if the
rank is even. So the rank is that of a nearest double, ties go to even ranks, and rounding is
finite up to the middle behind the last finite rank.

## Main definitions

* `Double.RoundsUpTo`: the comparison with the middle behind a rank.
* `Double.value`: the exact value of a finite double.
* `Double.IsNearest`: the double to which a number is rounded.

## Main results

* `Double.nearestRank_le_iff`: rounding by leading digits is the comparison with the middle.
* `Double.roundsUpTo_last_iff`: the last number that is rounded to a finite double.
* `Double.isNearest_of_le_iff`: rounding goes to a nearest double.
-/

namespace TexMarkup

namespace Double

variable {num den rank place group : Nat} {q : ℚ}

/-! ## Ranks by groups -/

theorem units_zero : units 0 = 0 :=
  rfl

theorem units_strictMono : StrictMono units :=
  strictMono_nat_of_lt_succ units_lt_units_succ

theorem cast_units_lt {r : Nat} (less : rank < r) : (units rank : ℚ) < units r :=
  Nat.cast_lt.mpr (units_strictMono less)

theorem cast_units_le {r : Nat} (le : rank ≤ r) : (units rank : ℚ) ≤ units r :=
  Nat.cast_le.mpr (units_strictMono.monotone le)

/-- The units of a rank by its group and its place in the group. The first place of a group
counts as the last one of the group before, too. -/
theorem units_group (least : group = 0 ∨ 2 ^ 52 ≤ place) (most : place ≤ 2 ^ 53) :
    units (group * 2 ^ 52 + place) = place * 2 ^ group := by
  unfold units
  by_cases first : group * 2 ^ 52 + place < 2 ^ 52
  · obtain rfl : group = 0 := by omega
    rw [if_pos first, Nat.zero_mul, Nat.zero_add, Nat.pow_zero, Nat.mul_one]
  · rw [if_neg first]
    by_cases last : place = 2 ^ 53
    · have div : (group * 2 ^ 52 + place) / 2 ^ 52 - 1 = group + 1 := by omega
      have mod : (group * 2 ^ 52 + place) % 2 ^ 52 = 0 := by omega
      rw [div, mod, last, Nat.add_zero]
      ring
    · have div : (group * 2 ^ 52 + place) / 2 ^ 52 - 1 = group := by omega
      have mod : 2 ^ 52 + (group * 2 ^ 52 + place) % 2 ^ 52 = place := by omega
      rw [div, mod]

/-- Neighbouring magnitudes are not closer than fifty-three binary digits can tell. -/
theorem units_succ_le (rank : Nat) :
    units (rank + 1) + 2 ^ 53 * units rank ≤ 2 ^ 53 * units (rank + 1) := by
  obtain ⟨group, place, split, least, less⟩ : ∃ group place, rank = group * 2 ^ 52 + place ∧
      (group = 0 ∨ 2 ^ 52 ≤ place) ∧ place < 2 ^ 53 := by
    refine ⟨rank / 2 ^ 52 - 1, rank - (rank / 2 ^ 52 - 1) * 2 ^ 52, ?_, ?_, ?_⟩ <;> omega
  have here : units rank = place * 2 ^ group := by
    rw [split]
    exact units_group least less.le
  have next : units (rank + 1) = (place + 1) * 2 ^ group := by
    rw [split, Nat.add_assoc]
    exact units_group (by omega) less
  rw [here, next, ← Nat.mul_assoc, ← Nat.mul_assoc, ← Nat.add_mul]
  exact Nat.mul_le_mul_right _ (by omega)

theorem ofRank_of_lt {negative : Bool} (finite : rank < rankCount) :
    ofRank negative rank = .finite negative ⟨rank, finite⟩ :=
  dif_pos finite

theorem ofRank_of_not_lt {negative : Bool} (past : ¬ rank < rankCount) :
    ofRank negative rank = infinite negative :=
  dif_neg past

/-! ## Rounding to natural numbers -/

theorem roundHalfEven_le_iff (pos : 0 < den) (k : Nat) : roundHalfEven num den ≤ k ↔
    2 * num < (2 * k + 1) * den ∨ 2 * num = (2 * k + 1) * den ∧ k % 2 = 0 := by
  have split := Nat.div_add_mod num den
  have small := Nat.mod_lt num pos
  have middle : (2 * k + 1) * den = 2 * (den * k) + den := by ring
  simp only [roundHalfEven, middle]
  generalize num / den = whole at split ⊢
  generalize num % den = rest at split small ⊢
  rcases Nat.lt_trichotomy k whole with less | rfl | greater
  · have le := Nat.mul_le_mul_left den less
    rw [Nat.mul_succ] at le
    split <;> try split
    all_goals omega
  · split <;> try split
    all_goals omega
  · have le := Nat.mul_le_mul_left den greater
    rw [Nat.mul_succ] at le
    split <;> try split
    all_goals omega

theorem le_roundHalfEven {k : Nat} (pos : 0 < den) (le : k * den ≤ num) :
    k ≤ roundHalfEven num den := by
  -- Rounding never goes below the whole part.
  have whole : k ≤ num / den := (Nat.le_div_iff_mul_le pos).mpr le
  simp only [roundHalfEven]
  split <;> try split
  all_goals omega

/-- The quotient has at most so many binary digits in front of the last one that counts. -/
theorem group_bounds (num : Nat) (pos : 0 < den) :
    num < 2 ^ 53 * (den * 2 ^ (Nat.log2 (num / den) - 52)) ∧
      (Nat.log2 (num / den) - 52 = 0 ∨
        2 ^ 52 * (den * 2 ^ (Nat.log2 (num / den) - 52)) ≤ num) := by
  generalize same : Nat.log2 (num / den) - 52 = group
  have shift (k : Nat) : 2 ^ k * (den * 2 ^ group) = 2 ^ (k + group) * den := by ring
  rw [shift, shift]
  constructor
  · have less : num / den < 2 ^ (53 + group) :=
      Nat.lt_log2_self.trans_le (Nat.pow_le_pow_right (by decide) (by omega))
    exact (Nat.div_lt_iff_lt_mul pos).mp less
  · by_cases first : group = 0
    · exact .inl first
    · refine .inr ((Nat.le_div_iff_mul_le pos).mp ?_)
      have nonzero : num / den ≠ 0 := by
        rintro zero
        rw [zero] at same
        exact first same.symm
      have exponent : 52 + group = Nat.log2 (num / den) := by omega
      rw [exponent]
      exact Nat.log2_self_le nonzero

/-! ## The middle between ranks -/

/-- So many units round to this rank or to one below it: they are not past the middle to the
next rank, and on the middle only if the rank is even. -/
def RoundsUpTo (q : ℚ) (rank : Nat) : Prop :=
  2 * q < units rank + units (rank + 1) ∨ 2 * q = units rank + units (rank + 1) ∧ rank % 2 = 0

theorem nearestRank_le_iff_units (pos : 0 < den) : nearestRank num den ≤ rank ↔
    2 * num < (units rank + units (rank + 1)) * den ∨
      2 * num = (units rank + units (rank + 1)) * den ∧ rank % 2 = 0 := by
  obtain ⟨less, least⟩ := group_bounds num pos
  rw [nearestRank]
  generalize Nat.log2 (num / den) - 52 = group at less least ⊢
  have posStep : 0 < den * 2 ^ group := Nat.mul_pos pos (Nat.two_pow_pos group)
  have mono := units_strictMono.monotone
  rcases Nat.lt_or_ge rank (group * 2 ^ 52 + 2 ^ 53) with inside | behind
  · by_cases front : group = 0 ∨ group * 2 ^ 52 + 2 ^ 52 ≤ rank
    · -- Both neighbours of the middle lie in the group.
      obtain ⟨place, split⟩ : ∃ place, rank = group * 2 ^ 52 + place :=
        ⟨rank - group * 2 ^ 52, by omega⟩
      have here : units rank = place * 2 ^ group := by
        rw [split]
        exact units_group (by omega) (by omega)
      have next : units (rank + 1) = (place + 1) * 2 ^ group := by
        rw [split, Nat.add_assoc]
        exact units_group (by omega) (by omega)
      have middle : (place * 2 ^ group + (place + 1) * 2 ^ group) * den =
          (2 * place + 1) * (den * 2 ^ group) := by ring
      have parity : rank % 2 = place % 2 := by omega
      have places (n : Nat) : group * 2 ^ 52 + n ≤ rank ↔ n ≤ place := by omega
      rw [here, next, middle, parity, places, roundHalfEven_le_iff posStep]
    · -- All that is rounded in this group lies behind the middle.
      rw [not_or, Nat.not_le] at front
      have reached : 2 ^ 52 * (den * 2 ^ group) ≤ num := least.resolve_left front.1
      have first : units (group * 2 ^ 52 + 2 ^ 52) = 2 ^ 52 * 2 ^ group :=
        units_group (.inr le_rfl) (Nat.pow_le_pow_right (by decide) (by decide))
      have here : units rank < 2 ^ 52 * 2 ^ group := first ▸ units_strictMono front.2
      have next : units (rank + 1) ≤ 2 ^ 52 * 2 ^ group := first ▸ mono front.2
      have past : (units rank + units (rank + 1)) * den < 2 * num :=
        calc (units rank + units (rank + 1)) * den
            < (2 ^ 52 * 2 ^ group + 2 ^ 52 * 2 ^ group) * den :=
              Nat.mul_lt_mul_of_pos_right (Nat.add_lt_add_of_lt_of_le here next) pos
          _ = 2 * (2 ^ 52 * (den * 2 ^ group)) := by ring
          _ ≤ 2 * num := Nat.mul_le_mul_left 2 reached
      have great := le_roundHalfEven posStep reached
      constructor
      · intro upTo
        exact absurd (front.2.trans_le (Nat.add_le_add_left great _)) (Nat.not_lt.mpr upTo)
      · rintro (less | ⟨same, -⟩)
        · exact absurd past (Nat.not_lt.mpr less.le)
        · exact absurd past (same ▸ lt_irrefl _)
  · -- All that is rounded in this group lies in front of the middle.
    have most : roundHalfEven num (den * 2 ^ group) ≤ 2 ^ 53 :=
      (roundHalfEven_le_iff posStep _).mpr (.inl (by omega))
    have last : units (group * 2 ^ 52 + 2 ^ 53) = 2 ^ 53 * 2 ^ group :=
      units_group (by omega) (by omega)
    have here : 2 ^ 53 * 2 ^ group ≤ units rank := last.symm.trans_le (mono behind)
    have next := mono (Nat.le_succ rank)
    have great : 2 * num < (units rank + units (rank + 1)) * den :=
      calc 2 * num < 2 * (2 ^ 53 * (den * 2 ^ group)) := Nat.mul_lt_mul_of_pos_left less (by decide)
        _ = (2 ^ 53 * 2 ^ group + 2 ^ 53 * 2 ^ group) * den := by ring
        _ ≤ (units rank + units (rank + 1)) * den :=
          Nat.mul_le_mul_right den (Nat.add_le_add here (here.trans next))
    exact ⟨fun _ => .inl great, fun _ => by omega⟩

/-- A quotient of units rounds to this rank or to one below it as long as it is not past the
middle behind the rank. -/
theorem nearestRank_le_iff (pos : 0 < den) :
    nearestRank num den ≤ rank ↔ RoundsUpTo (num / den) rank := by
  have posDen : (0 : ℚ) < den := Nat.cast_pos.mpr pos
  rw [nearestRank_le_iff_units pos, RoundsUpTo, ← mul_div_assoc, div_lt_iff₀ posDen,
    div_eq_iff posDen.ne']
  norm_cast

theorem RoundsUpTo.mono {r : Nat} (h : RoundsUpTo q rank) (le : rank ≤ r) : RoundsUpTo q r := by
  rcases Nat.eq_or_lt_of_le le with rfl | less
  · exact h
  · have here := cast_units_lt less
    have next := cast_units_lt (Nat.succ_lt_succ less)
    rcases h with h | ⟨h, -⟩ <;> exact .inl (by linarith)

theorem RoundsUpTo.anti {q' : ℚ} (h : RoundsUpTo q rank) (le : q' ≤ q) : RoundsUpTo q' rank := by
  rcases le.lt_or_eq with less | rfl
  · rcases h with h | ⟨h, -⟩ <;> exact .inl (by linarith)
  · exact h

/-- The magnitude of a rank is rounded to the rank itself. -/
theorem roundsUpTo_units_iff {r : Nat} : RoundsUpTo (units rank) r ↔ rank ≤ r := by
  have succ := cast_units_lt (Nat.lt_succ_self r)
  constructor
  · intro h
    by_contra greater
    have next := cast_units_le (Nat.lt_of_not_le greater)
    rcases h with h | ⟨h, -⟩ <;> linarith
  · intro le
    have here := cast_units_le le
    exact .inl (by linarith)

/-- The middle between the last finite magnitude and the one that would come next is rounded up,
because the last rank is odd. -/
theorem roundsUpTo_last_iff :
    RoundsUpTo q (rankCount - 1) ↔ q < (2 ^ 1024 - 2 ^ 970) * unitsPerOne := by
  have last : rankCount - 1 = 2045 * 2 ^ 52 + (2 ^ 53 - 1) := by decide
  have next : rankCount - 1 + 1 = 2045 * 2 ^ 52 + 2 ^ 53 := by decide
  have odd : ¬ (rankCount - 1) % 2 = 0 := by decide
  have lastUnits : units (rankCount - 1) = (2 ^ 53 - 1) * 2 ^ 2045 := by
    rw [last]
    exact units_group (by decide) (by decide)
  have nextUnits : units (rankCount - 1 + 1) = 2 ^ 53 * 2 ^ 2045 := by
    rw [next]
    exact units_group (by decide) (by decide)
  have middle : (units (rankCount - 1) + units (rankCount - 1 + 1) : ℚ) =
      2 * ((2 ^ 1024 - 2 ^ 970) * unitsPerOne) := by
    -- The powers are too great to be computed.
    have top : (2 : ℚ) ^ 2045 = 2 * (2 ^ 970 * 2 ^ 1074) := by rw [← pow_add, ← pow_succ']
    have gap : (2 : ℚ) ^ 1024 = 2 ^ 54 * 2 ^ 970 := by rw [← pow_add]
    rw [lastUnits, nextUnits, unitsPerOne]
    simp only [Nat.cast_mul, Nat.cast_pred (Nat.two_pow_pos 53), Nat.cast_pow, Nat.cast_ofNat]
    rw [top, gap]
    generalize (2 : ℚ) ^ 970 = gap
    generalize (2 : ℚ) ^ 1074 = one
    ring
  rw [RoundsUpTo, middle]
  generalize ((2 : ℚ) ^ 1024 - 2 ^ 970) * unitsPerOne = limit
  constructor
  · rintro (less | ⟨-, even⟩)
    · linarith
    · exact absurd even odd
  · exact fun less => .inl (by linarith)

/-! ## Nearest doubles -/

/-- The number with this sign and magnitude. -/
def signed (negative : Bool) (magnitude : ℚ) : ℚ :=
  if negative then -magnitude else magnitude

/-- The exact value of a finite double by its sign and its rank. -/
def value (negative : Bool) (rank : Nat) : ℚ :=
  signed negative (units rank / unitsPerOne)

/-- A number is rounded to this double: no finite one is nearer, and if another one is as near,
this one has an even rank. From the middle behind the last finite magnitude on, a number is
rounded to the infinite double with its sign. -/
def IsNearest (v : ℚ) : Double → Prop
  | finite negative rank =>
    |v| < 2 ^ 1024 - 2 ^ 970 ∧ ∀ negative' rank',
      |value negative rank - v| ≤ |value negative' rank' - v| ∧
        (|value negative rank - v| = |value negative' rank' - v| →
          value negative' rank' = value negative rank ∨ rank.val % 2 = 0)
  | infinite negative => 2 ^ 1024 - 2 ^ 970 ≤ |v| ∧ (negative = true ↔ v < 0)
  | nan => False

variable {negative : Bool} {magnitude : ℚ}

theorem unitsPerOne_pos : (0 : ℚ) < unitsPerOne := by
  rw [unitsPerOne, Nat.cast_pow]
  positivity

theorem abs_signed_sub (negative : Bool) (a b : ℚ) :
    |signed negative a - signed negative b| = |a - b| := by
  cases negative
  · rfl
  · rw [signed, signed, if_pos rfl, if_pos rfl, neg_sub_neg, abs_sub_comm]

theorem abs_signed (nonneg : 0 ≤ magnitude) : |signed negative magnitude| = magnitude := by
  cases negative
  · exact abs_of_nonneg nonneg
  · rw [signed, if_pos rfl, abs_neg, abs_of_nonneg nonneg]

theorem signed_zero (negative : Bool) : signed negative 0 = 0 := by
  cases negative <;> simp [signed]

/-- A number of the other sign is farther away than zero. -/
theorem abs_signed_sub_of_ne {negative' : Bool} {a b : ℚ} (other : negative' ≠ negative)
    (nonnegA : 0 ≤ a) (nonnegB : 0 ≤ b) : |signed negative' a - signed negative b| = a + b := by
  cases negative <;> cases negative' <;> simp only [ne_eq, not_true_eq_false] at other <;>
    simp only [signed, if_true, if_false, Bool.false_eq_true]
  · rw [abs_of_nonpos (by linarith)]
    ring
  · rw [sub_neg_eq_add, abs_of_nonneg (by linarith)]

/-- A rank that is compared with the middles in this way is nearest, and even if another one
is as near. -/
theorem distance_le_of_le_iff (rounds : ∀ r, rank ≤ r ↔ RoundsUpTo q r) (other : Nat) :
    |(units rank : ℚ) - q| ≤ |(units other : ℚ) - q| ∧
      (|(units rank : ℚ) - q| = |(units other : ℚ) - q| → other = rank ∨ rank % 2 = 0) := by
  rcases Nat.lt_trichotomy other rank with below | rfl | above
  · -- The middle in front of the rank lies between the other rank and the number.
    obtain ⟨previous, rfl⟩ : ∃ previous, rank = previous + 1 := ⟨rank - 1, by omega⟩
    have past : ¬ RoundsUpTo q previous := fun h => absurd ((rounds previous).mpr h) (by omega)
    rw [RoundsUpTo, not_or, not_lt, not_and] at past
    obtain ⟨past, tie⟩ := past
    have le := cast_units_le (Nat.le_of_lt_succ below)
    have less := cast_units_lt below
    have near : |(units (previous + 1) : ℚ) - q| ≤ q - units other := by
      rw [abs_le]
      constructor <;> linarith
    have far : q - units other = |(units other : ℚ) - q| := by
      rw [abs_sub_comm, abs_of_nonneg]
      exact (abs_nonneg _).trans near
    refine ⟨far ▸ near, fun same => .inr ?_⟩
    rw [← far] at same
    rcases abs_cases ((units (previous + 1) : ℚ) - q) with ⟨is, -⟩ | ⟨is, -⟩ <;> rw [is] at same
    · have odd := tie (by linarith)
      omega
    · linarith
  · exact ⟨le_rfl, fun _ => .inl rfl⟩
  · -- The middle behind the rank lies between the number and the other rank.
    have upTo := (rounds rank).mp le_rfl
    have middle : 2 * q ≤ units rank + units (rank + 1) := upTo.elim le_of_lt fun h => h.1.le
    have le := cast_units_le above
    have less := cast_units_lt above
    have near : |(units rank : ℚ) - q| ≤ units other - q := by
      rw [abs_le]
      constructor <;> linarith
    have far : (units other : ℚ) - q = |(units other : ℚ) - q| := by
      rw [abs_of_nonneg]
      exact (abs_nonneg _).trans near
    refine ⟨far ▸ near, fun same => .inr ?_⟩
    rw [← far] at same
    rcases abs_cases ((units rank : ℚ) - q) with ⟨is, -⟩ | ⟨is, -⟩ <;> rw [is] at same
    · linarith
    · rcases upTo with less | ⟨-, even⟩
      · linarith
      · exact even

theorem abs_units_div_sub (rank : Nat) (magnitude : ℚ) :
    |(units rank : ℚ) / unitsPerOne - magnitude| =
      |(units rank : ℚ) - magnitude * unitsPerOne| / unitsPerOne := by
  rw [← abs_of_pos unitsPerOne_pos, ← abs_div, abs_of_pos unitsPerOne_pos, sub_div,
    mul_div_cancel_right₀ _ unitsPerOne_pos.ne']

/-- The same for doubles of either sign. -/
theorem value_distance_le (nonneg : 0 ≤ magnitude)
    (rounds : ∀ r, rank ≤ r ↔ RoundsUpTo (magnitude * unitsPerOne) r) (negative' : Bool)
    (other : Nat) :
    |value negative rank - signed negative magnitude| ≤
        |value negative' other - signed negative magnitude| ∧
      (|value negative rank - signed negative magnitude| =
          |value negative' other - signed negative magnitude| →
        value negative' other = value negative rank ∨ rank % 2 = 0) := by
  by_cases same : negative' = negative
  · subst same
    obtain ⟨le, tie⟩ := distance_le_of_le_iff rounds other
    rw [value, value, abs_signed_sub, abs_signed_sub, abs_units_div_sub, abs_units_div_sub]
    refine ⟨div_le_div_of_nonneg_right le unitsPerOne_pos.le, fun same => ?_⟩
    rcases tie ((div_left_inj' unitsPerOne_pos.ne').mp same) with rfl | even
    · exact .inl rfl
    · exact .inr even
  · -- Zero lies between the number and a double of the other sign.
    obtain ⟨le, tie⟩ := distance_le_of_le_iff rounds 0
    have zero : |(units 0 : ℚ) - magnitude * unitsPerOne| = magnitude * unitsPerOne := by
      rw [units_zero, Nat.cast_zero, zero_sub, abs_neg, abs_of_nonneg]
      exact mul_nonneg nonneg unitsPerOne_pos.le
    have nonnegOther : 0 ≤ (units other : ℚ) / unitsPerOne :=
      div_nonneg (Nat.cast_nonneg _) unitsPerOne_pos.le
    rw [value, value, abs_signed_sub, abs_signed_sub_of_ne same nonnegOther nonneg,
      abs_units_div_sub]
    rw [zero] at le tie
    have near : |(units rank : ℚ) - magnitude * unitsPerOne| / unitsPerOne ≤ magnitude :=
      (div_le_iff₀ unitsPerOne_pos).mpr le
    refine ⟨by linarith, fun same => ?_⟩
    have otherZero : (units other : ℚ) / unitsPerOne = 0 := by linarith
    rw [otherZero, zero_add, div_eq_iff unitsPerOne_pos.ne'] at same
    rcases tie same with rfl | even
    · rw [otherZero, units_zero, Nat.cast_zero, zero_div, signed_zero, signed_zero]
      exact .inl rfl
    · exact .inr even

/-- A rank that is compared with the middles up to the last finite one is finite below the middle
behind that. -/
theorem rank_lt_rankCount_iff
    (rounds : ∀ r < rankCount, rank ≤ r ↔ RoundsUpTo (magnitude * unitsPerOne) r) :
    rank < rankCount ↔ magnitude < 2 ^ 1024 - 2 ^ 970 := by
  have some : 0 < rankCount := by decide
  have last := rounds (rankCount - 1) (Nat.sub_one_lt_of_lt some)
  rw [roundsUpTo_last_iff, mul_lt_mul_iff_left₀ unitsPerOne_pos] at last
  rw [← last]
  omega

/-- A rank that is compared with the middles up to the last finite one gives the double to which
the number is rounded. -/
theorem isNearest_of_le_iff (nonneg : 0 ≤ magnitude)
    (rounds : ∀ r < rankCount, rank ≤ r ↔ RoundsUpTo (magnitude * unitsPerOne) r) :
    (ofRank negative rank).IsNearest (signed negative magnitude) := by
  have limit := rank_lt_rankCount_iff rounds
  by_cases finite : rank < rankCount
  · rw [ofRank_of_lt finite]
    refine ⟨by rw [abs_signed nonneg]; exact limit.mp finite, value_distance_le nonneg fun r => ?_⟩
    by_cases inside : r < rankCount
    · exact rounds r inside
    · -- Behind the last finite rank both sides hold.
      have le : rank ≤ rankCount - 1 := Nat.le_sub_one_of_lt finite
      have le' : rankCount - 1 ≤ r := by omega
      have last := (rounds (rankCount - 1) (by decide)).mp le
      exact iff_of_true (le.trans le') (last.mono le')
  · rw [ofRank_of_not_lt finite]
    have great : 2 ^ 1024 - 2 ^ 970 ≤ magnitude := not_lt.mp (mt limit.mpr finite)
    have pos : 0 < magnitude := by
      refine lt_of_lt_of_le ?_ great
      exact sub_pos.mpr (pow_lt_pow_right₀ one_lt_two (by decide))
    refine ⟨by rwa [abs_signed nonneg], ?_⟩
    cases negative
    · exact iff_of_false Bool.false_ne_true (not_lt.mpr nonneg)
    · exact iff_of_true rfl (neg_neg_of_pos pos)

end Double

end TexMarkup
