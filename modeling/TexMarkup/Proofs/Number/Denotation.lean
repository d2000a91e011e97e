import TexMarkup.Proofs.Number.Magnitude
import TexMarkup.Proofs.Number.Natural

/-!
# What numerals denote

A numeral denotes a rational number: that of its digits, with as many of them behind the point as
are written there, times the power of ten and with the sign that are written. The texts that are
read as decimals are the numerals, and each is read as the number that it denotes.

## Main definitions

* `Denotes`: the number of a numeral, following its grammar.

## Main results

* `numeral_iff_denotes`: the numerals are the texts that denote a number.
* `Decimal.denotes_iff_parse?`: a numeral is read as the number that it denotes, and nothing else
  is read as a decimal.
* `Denotes.unique`: a text denotes one number at most.
-/

namespace TexMarkup

/-- The natural number that digits denote. -/
def digitsValue (digits : List Char) : Nat :=
  Nat.ofDigitChars 10 digits 0

/-- Whether a sign is a minus. -/
inductive SignValue : List Char → Bool → Prop where
  | none : SignValue [] false
  | plus : SignValue ['+'] false
  | minus : SignValue ['-'] true

/-- The number of a mantissa: a digit behind the point counts for a tenth of the one before. -/
inductive MantissaValue : List Char → ℚ → Prop where
  | whole {digits : List Char} : Digits digits → MantissaValue digits (digitsValue digits)
  | decimal {digits fraction : List Char} :
    Digits digits → (∀ c ∈ fraction, c.isDigit = true) →
      MantissaValue (digits ++ '.' :: fraction)
        (digitsValue digits + digitsValue fraction / 10 ^ fraction.length)
  | fraction {digits : List Char} :
    Digits digits → MantissaValue ('.' :: digits) (digitsValue digits / 10 ^ digits.length)

/-- The power of ten that is written, which is the zeroth when there is none. -/
inductive ExponentValue : List Char → ℤ → Prop where
  | none : ExponentValue [] 0
  | power {mark : Char} {sign digits : List Char} {negative : Bool} :
    mark = 'e' ∨ mark = 'E' → SignValue sign negative → Digits digits →
      ExponentValue (mark :: (sign ++ digits))
        (if negative then -digitsValue digits else digitsValue digits)

/-- The text is a numeral for this number. -/
def Denotes (cs : List Char) (v : ℚ) : Prop :=
  ∃ sign mantissa exponent negative magnitude power, SignValue sign negative ∧
    MantissaValue mantissa magnitude ∧ ExponentValue exponent power ∧
    cs = sign ++ mantissa ++ exponent ∧ v = Double.signed negative (magnitude * 10 ^ power)

variable {cs rest sign mantissa exponent : List Char} {v v' magnitude : ℚ} {power : ℤ}
  {negative : Bool}

/-! ## Numerals and their parts -/

theorem sign_iff_signValue : Sign sign ↔ ∃ negative, SignValue sign negative := by
  constructor
  · rintro (_ | _ | _)
    · exact ⟨_, .none⟩
    · exact ⟨_, .plus⟩
    · exact ⟨_, .minus⟩
  · rintro ⟨_, (_ | _ | _)⟩
    · exact .none
    · exact .plus
    · exact .minus

theorem mantissa_iff_mantissaValue : Mantissa mantissa ↔ ∃ v, MantissaValue mantissa v := by
  constructor
  · rintro (digits | ⟨digits, fraction⟩ | digits)
    · exact ⟨_, .whole digits⟩
    · exact ⟨_, .decimal digits fraction⟩
    · exact ⟨_, .fraction digits⟩
  · rintro ⟨_, (digits | ⟨digits, fraction⟩ | digits)⟩
    · exact .whole digits
    · exact .decimal digits fraction
    · exact .fraction digits

theorem exponent_iff_exponentValue : Exponent exponent ↔ ∃ power, ExponentValue exponent power := by
  constructor
  · rintro (_ | ⟨marked, signed, digits⟩)
    · exact ⟨_, .none⟩
    · obtain ⟨negative, signed⟩ := sign_iff_signValue.mp signed
      exact ⟨_, .power marked signed digits⟩
  · rintro ⟨_, (_ | ⟨marked, signed, digits⟩)⟩
    · exact .none
    · exact .power marked (sign_iff_signValue.mpr ⟨_, signed⟩) digits

/-- The numerals are the texts that denote a number. -/
theorem numeral_iff_denotes : Numeral cs ↔ ∃ v, Denotes cs v := by
  constructor
  · rintro ⟨sign, mantissa, exponent, signed, shaped, powered, split⟩
    obtain ⟨_, signed⟩ := sign_iff_signValue.mp signed
    obtain ⟨_, shaped⟩ := mantissa_iff_mantissaValue.mp shaped
    obtain ⟨_, powered⟩ := exponent_iff_exponentValue.mp powered
    exact ⟨_, sign, mantissa, exponent, _, _, _, signed, shaped, powered, split, rfl⟩
  · rintro ⟨_, sign, mantissa, exponent, _, _, _, signed, shaped, powered, split, -⟩
    have signed := sign_iff_signValue.mpr ⟨_, signed⟩
    have shaped := mantissa_iff_mantissaValue.mpr ⟨_, shaped⟩
    have powered := exponent_iff_exponentValue.mpr ⟨_, powered⟩
    exact ⟨sign, mantissa, exponent, signed, shaped, powered, split⟩

/-! ## Reading -/

theorem cast_digitsValue_nil : (digitsValue [] : ℚ) = 0 :=
  Nat.cast_zero

theorem digitsValue_append (digits fraction : List Char) :
    digitsValue (digits ++ fraction) =
      10 ^ fraction.length * digitsValue digits + digitsValue fraction := by
  rw [digitsValue, Nat.ofDigitChars_append, Nat.ofDigitChars_eq_ofDigitChars_zero]
  rfl

namespace Decimal

variable {d : Decimal}

theorem takeSign_append (signed : SignValue sign negative)
    (unsigned : ∀ c ∈ rest.head?, c ≠ '+' ∧ c ≠ '-') :
    takeSign (sign ++ rest) = (negative, rest) := by
  cases signed with
  | plus => rfl
  | minus => rfl
  | none =>
    rw [List.nil_append]
    unfold takeSign
    split
    · exact absurd rfl (unsigned '-' rfl).2
    · exact absurd rfl (unsigned '+' rfl).1
    · rfl

theorem exists_sign_takeSign (cs : List Char) :
    ∃ sign, SignValue sign (takeSign cs).1 ∧ cs = sign ++ (takeSign cs).2 := by
  unfold takeSign
  split
  · exact ⟨['-'], .minus, rfl⟩
  · exact ⟨['+'], .plus, rfl⟩
  · exact ⟨[], .none, rfl⟩

theorem exponent?_eq_some_iff : exponent? cs = some power ↔ ExponentValue cs power := by
  constructor
  · intro read
    cases cs with
    | nil =>
      obtain rfl := Option.some.inj read
      exact .none
    | cons mark cs =>
      obtain ⟨sign, signed, signSplit⟩ := exists_sign_takeSign cs
      rw [exponent?] at read
      generalize takeSign cs = taken at read signed signSplit
      obtain ⟨negative, unsigned⟩ := taken
      subst signSplit
      split at read
      case isTrue marked =>
        obtain ⟨n, natural, rfl⟩ := Option.map_eq_some_iff.mp read
        obtain ⟨digits, rfl⟩ := natural?_eq_some_iff.mp natural
        exact .power marked signed digits
      case isFalse => cases read
  · rintro (_ | ⟨marked, signed, digits⟩)
    · rfl
    · have unsigned := takeSign_append signed fun c head =>
        not_sign_of_isDigit (digits.head [] c (by rwa [List.append_nil]))
      rw [exponent?, if_pos marked, unsigned]
      exact Option.map_eq_some_iff.mpr ⟨_, natural?_eq_some_iff.mpr ⟨digits, rfl⟩, rfl⟩

/-- A point and digits are split off, or nothing is. -/
theorem takeFraction_spec (cs : List Char) :
    cs = (takeFraction cs).2 ∧ (takeFraction cs).1 = [] ∨
      cs = '.' :: (takeFraction cs).1 ++ (takeFraction cs).2 := by
  unfold takeFraction
  split
  · rw [List.cons_append, List.takeWhile_append_dropWhile]
    exact .inr rfl
  · exact .inl ⟨rfl, rfl⟩

/-- Digits behind the point count for less, as the exponent says. -/
theorem value_mk (negative : Bool) (whole fraction : List Char) (power : ℤ) :
    value ⟨negative, digitsValue (whole ++ fraction), power - fraction.length⟩ =
      Double.signed negative
        ((digitsValue whole + digitsValue fraction / 10 ^ fraction.length) * 10 ^ power) := by
  have ten : (10 : ℚ) ≠ 0 := by norm_num
  rw [value, magnitude, digitsValue_append, zpow_sub₀ ten, zpow_natCast]
  push_cast
  congr 1
  field_simp

/-- A point with digits on at least one side. -/
theorem mantissaValue_point {whole fraction : List Char} (digits : Digits (whole ++ fraction)) :
    MantissaValue (whole ++ '.' :: fraction)
      (digitsValue whole + digitsValue fraction / 10 ^ fraction.length) := by
  obtain ⟨nonempty, each⟩ := digits
  rw [List.forall_mem_append] at each
  by_cases empty : whole = []
  · subst empty
    rw [cast_digitsValue_nil, zero_add]
    exact .fraction ⟨nonempty, each.2⟩
  · exact .decimal ⟨empty, each.1⟩ each.2

/-- What is read as a decimal is a numeral for its value. -/
theorem denotes_of_parse? (read : parse? cs = some d) : Denotes cs d.value := by
  obtain ⟨sign, signed, signSplit⟩ := exists_sign_takeSign cs
  rw [parse?] at read
  generalize takeSign cs = taken at read signed signSplit
  obtain ⟨negative, unsigned⟩ := taken
  subst signSplit
  dsimp only at read signed
  have split := (List.takeWhile_append_dropWhile (p := Char.isDigit) (l := unsigned)).symm
  have cut := takeFraction_spec (unsigned.dropWhile Char.isDigit)
  generalize takeFraction (unsigned.dropWhile Char.isDigit) = taken at read cut
  obtain ⟨fraction, exponent⟩ := taken
  split at read
  case h_2 => cases read
  case h_1 n power natural powered =>
    obtain ⟨digits, rfl⟩ := natural?_eq_some_iff.mp natural
    have powered := exponent?_eq_some_iff.mp powered
    cases read
    generalize unsigned.takeWhile Char.isDigit = whole at split digits
    rcases cut with ⟨after, rfl⟩ | after <;> rw [after] at split
    · rw [List.append_nil] at digits
      refine ⟨sign, whole, exponent, negative, _, power, signed, .whole digits, powered,
        by simp [split], ?_⟩
      have same := value_mk negative whole [] power
      rwa [cast_digitsValue_nil, zero_div, add_zero] at same
    · refine ⟨sign, whole ++ '.' :: fraction, exponent, negative, _, power, signed,
        mantissaValue_point digits, powered, by simp [split], ?_⟩
      exact value_mk negative whole fraction power

theorem takeFraction_point {fraction : List Char} (digits : ∀ c ∈ fraction, c.isDigit = true)
    (stops : ∀ c ∈ rest.head?, c.isDigit = false) :
    takeFraction ('.' :: (fraction ++ rest)) = (fraction, rest) := by
  obtain ⟨taken, left⟩ := takeWhile_dropWhile_append digits stops
  rw [takeFraction, taken, left]

theorem takeFraction_of_head_ne (noPoint : ∀ c ∈ rest.head?, c ≠ '.') :
    takeFraction rest = ([], rest) := by
  unfold takeFraction
  split
  · exact absurd rfl (noPoint '.' rfl)
  · rfl

/-- A decimal is read from its parts. -/
theorem parse?_append (whole : List Char) {fraction after : List Char}
    (signed : SignValue sign negative)
    (unsigned : ∀ c ∈ (whole ++ after).head?, c ≠ '+' ∧ c ≠ '-')
    (digits : ∀ c ∈ whole, c.isDigit = true) (stops : ∀ c ∈ after.head?, c.isDigit = false)
    (cut : takeFraction after = (fraction, exponent)) (some : Digits (whole ++ fraction))
    (powered : ExponentValue exponent power) :
    parse? (sign ++ (whole ++ after)) =
      .some ⟨negative, digitsValue (whole ++ fraction), power - fraction.length⟩ := by
  obtain ⟨taken, left⟩ := takeWhile_dropWhile_append digits stops
  have natural : natural? (whole ++ fraction) = .some (digitsValue (whole ++ fraction)) :=
    natural?_eq_some_iff.mpr ⟨some, rfl⟩
  rw [parse?, takeSign_append signed unsigned]
  simp only [taken, left, cut, natural, exponent?_eq_some_iff.mpr powered]

/-- A numeral is read as the number that it denotes. -/
theorem exists_parse?_of_denotes (h : Denotes cs v) : ∃ d, parse? cs = some d ∧ d.value = v := by
  obtain ⟨sign, mantissa, exponent, negative, magnitude, power, signed, shaped, powered, rfl,
    rfl⟩ := h
  have unsigned := (mantissa_iff_mantissaValue.mpr ⟨_, shaped⟩).head exponent
  have follows := (exponent_iff_exponentValue.mpr ⟨_, powered⟩).head
  have stops : ∀ c ∈ exponent.head?, c.isDigit = false := fun c head => (follows c head).1
  -- The digits end at the point or where the power of ten begins.
  have pointStops (rest : List Char) : ∀ c ∈ ('.' :: rest).head?, c.isDigit = false := by simp
  rw [List.append_assoc]
  cases shaped with
  | whole digits =>
    have cut := takeFraction_of_head_ne fun c head => (follows c head).2.1
    have some : Digits (mantissa ++ []) := by rwa [List.append_nil]
    have read := parse?_append mantissa signed unsigned digits.2 stops cut some powered
    have same := value_mk negative mantissa [] power
    rw [cast_digitsValue_nil, zero_div, add_zero] at same
    exact ⟨_, read, same⟩
  | @decimal whole fraction digits fractional =>
    have cut := takeFraction_point fractional stops
    have some : Digits (whole ++ fraction) :=
      ⟨by simp [digits.1], List.forall_mem_append.mpr ⟨digits.2, fractional⟩⟩
    rw [List.append_assoc] at unsigned ⊢
    exact ⟨_, parse?_append whole signed unsigned digits.2 (pointStops _) cut some powered,
      value_mk negative whole fraction power⟩
  | @fraction fraction digits =>
    have cut := takeFraction_point digits.2 stops
    have read := parse?_append [] signed unsigned (by simp) (pointStops _) cut digits powered
    have same := value_mk negative [] fraction power
    rw [cast_digitsValue_nil, zero_add] at same
    exact ⟨_, read, same⟩

/-- The numerals for a number are the texts that are read as decimals of this value. -/
theorem denotes_iff_parse? : Denotes cs v ↔ ∃ d, parse? cs = some d ∧ d.value = v := by
  constructor
  · exact exists_parse?_of_denotes
  · rintro ⟨d, read, rfl⟩
    exact denotes_of_parse? read

/-- The texts that are read as decimals are the numerals. -/
theorem isSome_parse?_iff : (parse? cs).isSome = true ↔ Numeral cs := by
  rw [numeral_iff_denotes, Option.isSome_iff_exists]
  simp only [denotes_iff_parse?]
  constructor
  · rintro ⟨d, read⟩
    exact ⟨_, d, read, rfl⟩
  · rintro ⟨_, d, read, -⟩
    exact ⟨d, read⟩

end Decimal

/-- A text denotes one number at most. -/
theorem Denotes.unique (h : Denotes cs v) (h' : Denotes cs v') : v = v' := by
  obtain ⟨d, read, rfl⟩ := Decimal.denotes_iff_parse?.mp h
  obtain ⟨d', read', rfl⟩ := Decimal.denotes_iff_parse?.mp h'
  rw [Option.some.inj (read.symm.trans read')]

end TexMarkup
