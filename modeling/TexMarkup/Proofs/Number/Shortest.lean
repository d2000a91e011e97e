import TexMarkup.Proofs.Number.FewestDigits
import TexMarkup.Proofs.Number.Text

/-!
# Texts of doubles read back

A double is written as a decimal with the fewest digits that is rounded to it, in positional
notation. The text is a numeral for exactly this decimal, so it is read as the double again.

## Main definitions

* `Positional`: digits with perhaps a point and more digits.

## Main results

* `Decimal.layout_spec`: positional notation and its value.
* `Double.toText?_finite`: the text of a finite double is read as that double.
-/

namespace TexMarkup

/-- Digits, and perhaps a point with more digits after it. -/
def Positional (cs : List Char) : Prop :=
  Digits cs ∨ ∃ whole fraction, Digits whole ∧ Digits fraction ∧ cs = whole ++ '.' :: fraction

variable {cs : List Char} {d : Decimal} {rank n count zeros : Nat}

/-! ## Positional notation -/

theorem digits_toDigits (n : Nat) : Digits (Nat.toDigits 10 n) :=
  ⟨Nat.toDigits_ne_nil, fun _ => Nat.isDigit_of_mem_toDigits (by decide) (by decide)⟩

theorem digitsValue_toDigits (n : Nat) : digitsValue (Nat.toDigits 10 n) = n :=
  Nat.ofDigitChars_ten_toDigits

theorem digitsValue_zeros (zeros : Nat) : digitsValue (List.replicate zeros '0') = 0 :=
  Nat.ofDigitChars_replicate_zero

/-- Zeros in front of a number do not count. -/
theorem digitsValue_zeros_append (zeros : Nat) (cs : List Char) :
    digitsValue (List.replicate zeros '0' ++ cs) = digitsValue cs := by
  rw [digitsValue_append, digitsValue_zeros, Nat.mul_zero, Nat.zero_add]

/-- Zeros behind a number count ten times each. -/
theorem digitsValue_append_zeros (cs : List Char) (zeros : Nat) :
    digitsValue (cs ++ List.replicate zeros '0') = 10 ^ zeros * digitsValue cs := by
  rw [digitsValue_append, digitsValue_zeros, List.length_replicate, Nat.add_zero]

theorem isDigit_of_mem_zeros {c : Char} (mem : c ∈ List.replicate zeros '0') :
    c.isDigit = true := by
  rw [List.eq_of_mem_replicate mem]
  decide

namespace Decimal

theorem exists_dropZerosEnd (cs : List Char) :
    ∃ zeros, cs = dropZerosEnd cs ++ List.replicate zeros '0' := by
  have dropped : ∀ c ∈ (cs.reverse.takeWhile (· == '0')).reverse, c = '0' := by
    intro c mem
    simpa using List.mem_takeWhile_imp (List.mem_reverse.mp mem)
  refine ⟨(cs.reverse.takeWhile (· == '0')).reverse.length, ?_⟩
  rw [← List.eq_replicate_of_mem dropped, dropZerosEnd, ← List.reverse_append,
    List.takeWhile_append_dropWhile, List.reverse_reverse]

/-- Digits behind the point count the same without the zeros at their end, and without the point
when none are left. -/
theorem mantissaValue_dropZerosEnd {whole fraction : List Char} (digits : Digits whole)
    (fractional : ∀ c ∈ fraction, c.isDigit = true) {v : ℚ}
    (value : v = digitsValue (whole ++ fraction) / 10 ^ fraction.length) :
    MantissaValue (whole ++ '.' :: dropZerosEnd fraction) v ∧
      (dropZerosEnd fraction = [] → MantissaValue whole v) := by
  obtain ⟨zeros, split⟩ := exists_dropZerosEnd fraction
  generalize dropZerosEnd fraction = kept at split ⊢
  subst split
  have kept' : ∀ c ∈ kept, c.isDigit = true :=
    fun c mem => fractional c (List.mem_append_left _ mem)
  have same : v = digitsValue whole + digitsValue kept / 10 ^ kept.length := by
    rw [value, ← List.append_assoc, digitsValue_append_zeros, digitsValue_append,
      List.length_append, List.length_replicate, pow_add]
    push_cast
    field_simp
  rw [same]
  refine ⟨.decimal digits kept', ?_⟩
  rintro rfl
  rw [cast_digitsValue_nil, zero_div, add_zero]
  exact .whole digits

/-- With zeros in front there is at least one digit more than there are places behind the point. -/
theorem padded_spec {digits : List Char} (each : ∀ c ∈ digits, c.isDigit = true) (places : Nat) :
    let padded := List.replicate (places + 1 - digits.length) '0' ++ digits
    let whole := padded.take (padded.length - places)
    let fraction := padded.drop (padded.length - places)
    Digits whole ∧ (∀ c ∈ fraction, c.isDigit = true) ∧ fraction.length = places ∧
      digitsValue (whole ++ fraction) = digitsValue digits := by
  intro padded whole fraction
  have long : places < padded.length := by
    rw [List.length_append, List.length_replicate]
    omega
  have each : ∀ c ∈ whole ++ fraction, c.isDigit = true := by
    rw [List.take_append_drop]
    exact List.forall_mem_append.mpr ⟨fun c => isDigit_of_mem_zeros, each⟩
  have nonempty : whole ≠ [] := by
    rw [← List.length_pos_iff, List.length_take]
    omega
  obtain ⟨wholeDigits, fractional⟩ := List.forall_mem_append.mp each
  refine ⟨⟨nonempty, wholeDigits⟩, fractional, ?_, ?_⟩
  · rw [List.length_drop]
    omega
  · rw [List.take_append_drop, digitsValue_zeros_append]

/-- A decimal is laid out in positional notation, which has its value. -/
theorem layout_spec (d : Decimal) : Positional d.layout ∧ MantissaValue d.layout d.magnitude := by
  have digits := digits_toDigits d.digits
  have same := digitsValue_toDigits d.digits
  rw [layout]
  generalize Nat.toDigits 10 d.digits = cs at digits same ⊢
  split
  case isTrue nonneg =>
    have digits : Digits (cs ++ List.replicate d.exponent.toNat '0') :=
      ⟨by simp [digits.1],
        List.forall_mem_append.mpr ⟨digits.2, fun c => isDigit_of_mem_zeros⟩⟩
    refine ⟨.inl digits, ?_⟩
    have value := MantissaValue.whole digits
    rwa [digitsValue_append_zeros, same, Nat.mul_comm, Nat.cast_mul, Nat.cast_pow, Nat.cast_ofNat,
      ← magnitude_of_nonneg nonneg] at value
  case isFalse negative =>
    -- Zeros in front make room for the point, those at the end are not written.
    obtain ⟨whole, fractional, length, value⟩ := padded_spec digits.2 (-d.exponent).toNat
    obtain ⟨point, noPoint⟩ := mantissaValue_dropZerosEnd (v := d.magnitude) whole fractional (by
      rw [length, value, same]
      exact magnitude_of_neg (not_le.mp negative))
    dsimp only
    split
    case h_1 none => exact ⟨.inl whole, noPoint none⟩
    case h_2 some =>
      refine ⟨.inr ⟨_, _, whole, ⟨some, fun c mem => fractional c ?_⟩, rfl⟩, point⟩
      obtain ⟨zeros, split⟩ := exists_dropZerosEnd (List.drop _ _)
      rw [split]
      exact List.mem_append_left _ mem

end Decimal

/-! ## The text of a double -/

namespace Double

/-- A decimal in positional notation is read as the double to which it is rounded. -/
theorem coerceNumber_layout (d : Decimal) (negative : Bool) (nonzero : d.magnitude ≠ 0)
    (finite : d.rank < rankCount) :
    let text := String.ofList (if negative then '-' :: d.layout else d.layout)
    (text.toList = d.layout ∨ text.toList = '-' :: d.layout) ∧
      Denotes text.toList (Decimal.value { d with negative }) ∧
      coerceNumber text = some (.finite negative ⟨d.rank, finite⟩) := by
  intro text
  obtain ⟨positional, value⟩ := d.layout_spec
  have double := Decimal.toDouble_with_sign d negative
  rw [ofRank_of_lt finite] at double
  obtain ⟨sign, signed, split⟩ :
      ∃ sign, SignValue sign negative ∧ text.toList = sign ++ d.layout := by
    cases negative
    · exact ⟨[], .none, String.toList_ofList⟩
    · exact ⟨['-'], .minus, String.toList_ofList⟩
  have denotes : Denotes text.toList (Decimal.value { d with negative }) :=
    ⟨sign, d.layout, [], negative, d.magnitude, 0, signed, value, .none,
      by rw [List.append_nil, split], by rw [zpow_zero, mul_one, Decimal.value_with_sign]⟩
  have nonzero : Decimal.value { d with negative } ≠ 0 := by
    rw [Decimal.value_with_sign, ne_eq, ← abs_eq_zero, abs_signed d.magnitude_nonneg]
    exact nonzero
  refine ⟨?_, denotes, ?_⟩
  · cases negative
    · exact .inl String.toList_ofList
    · exact .inr String.toList_ofList
  · rw [← double]
    exact coerceNumber_of_denotes denotes nonzero (by rw [double]; rfl)

/-- The text of a finite double is in positional notation, it denotes a decimal with the fewest
digits that is rounded to the double, and it is read as the double. Zero loses its sign. -/
theorem toText?_finite (negative : Bool) (rank : Fin (2047 * 2 ^ 52)) :
    ∃ text, (finite negative rank).toText? = some text ∧
      (∃ digits, Positional digits ∧ (text.toList = digits ∨ text.toList = '-' :: digits)) ∧
      (∃ d : Decimal, Denotes text.toList d.value ∧ d.IsShortest negative rank) ∧
      coerceNumber text = some (if rank.val = 0 then zero false else finite negative rank) := by
  by_cases isZero : rank.val = 0
  · have text : (finite negative rank).toText? = some "0" := if_pos isZero
    have denotes : Denotes "0".toList (Decimal.value ⟨negative, 0, 0⟩) := by
      have read : Decimal.parse? "0".toList = some ⟨false, 0, 0⟩ := by decide
      have denotes := Decimal.denotes_of_parse? read
      rwa [Decimal.value_of_zero] at denotes ⊢
    rw [if_pos isZero, isZero]
    exact ⟨"0", text, ⟨['0'], .inl (digits_toDigits 0), .inl rfl⟩,
      ⟨⟨negative, 0, 0⟩, denotes, .zero negative⟩, by decide +kernel⟩
  · have text : (finite negative rank).toText? = some (String.ofList
        (if negative then '-' :: (shortest rank.val).layout else (shortest rank.val).layout)) :=
      if_neg isZero
    have positive := Nat.pos_of_ne_zero isZero
    have same := rank_shortest rank.isLt
    have nonzero := magnitude_ne_zero_of_rank positive rank.isLt same
    have positional := (shortest rank.val).layout_spec.1
    have least := isShortest_shortest negative positive rank.isLt
    rw [if_neg isZero]
    generalize shortest rank.val = d at text same nonzero positional least
    have read := coerceNumber_layout d negative nonzero (same.symm ▸ rank.isLt)
    have sameRank : (⟨d.rank, same.symm ▸ rank.isLt⟩ : Fin (2047 * 2 ^ 52)) = rank := Fin.ext same
    rw [sameRank] at read
    obtain ⟨shape, denotes, read⟩ := read
    exact ⟨_, text, ⟨_, positional, shape⟩, ⟨_, denotes, least⟩, read⟩

/-! ## Bit patterns -/

/-- The double of a finite pattern, by its sign and its rank. -/
theorem ofBits_of_lt {bits : UInt64} (finite : bits.toNat % 2 ^ 63 < 2047 * 2 ^ 52) :
    ofBits bits = .finite (2 ^ 63 ≤ bits.toNat) ⟨bits.toNat % 2 ^ 63, finite⟩ := by
  rw [ofBits, if_pos finite.le]
  exact ofRank_of_lt finite

theorem isFinite_ofBits_of_not_lt {bits : UInt64} (past : ¬ bits.toNat % 2 ^ 63 < 2047 * 2 ^ 52) :
    (ofBits bits).isFinite = false := by
  rw [ofBits]
  split
  · rw [ofRank_of_not_lt past]
    rfl
  · rfl

theorem toBits_ofBits {bits : UInt64} (finite : bits.toNat % 2 ^ 63 < 2047 * 2 ^ 52) :
    (ofBits bits).toBits = bits := by
  have sum : signBit (2 ^ 63 ≤ bits.toNat) + bits.toNat % 2 ^ 63 = bits.toNat := by
    have bound := bits.toNat_lt
    by_cases negative : 2 ^ 63 ≤ bits.toNat
    · rw [decide_eq_true negative, signBit, if_pos rfl]
      omega
    · rw [decide_eq_false negative, signBit, if_neg Bool.false_ne_true]
      omega
  rw [ofBits_of_lt finite, toBits, sum, UInt64.ofNat_toNat]

theorem toText?_of_not_finite {x : Double} (infinite : x.isFinite = false) : x.toText? = none := by
  cases x with
  | finite negative rank => cases infinite
  | infinite negative => rfl
  | nan => rfl

end Double

end TexMarkup
