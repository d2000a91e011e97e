import TexMarkup.Proofs.Text.Decide
import TexMarkup.Proofs.Text.Run
import TexMarkup.Token.Lexer

/-!
# The grammar of numerals

The test for numerals cuts a word at its sign, its point and its exponent. Here
the same words are described by their shape: an optional sign, a mantissa with
digits on at least one side of an optional point, and an optional power of ten.

## Main definitions

* `Numeral`: the words of this shape.

## Main results

* `isNumeral_iff`: the test accepts the numerals and nothing else.
* `Numeral.ne_nil`, `Numeral.wordChars`: a numeral is a word, in which no character
  is a token by itself.
-/

namespace TexMarkup

/-- One or more digits. -/
def Digits (cs : List Char) : Prop :=
  cs ≠ [] ∧ ∀ c ∈ cs, c.isDigit = true

/-- An optional sign. -/
inductive Sign : List Char → Prop where
  | none : Sign []
  | plus : Sign ['+']
  | minus : Sign ['-']

/-- Digits with at most one point, but not the point alone. -/
inductive Mantissa : List Char → Prop where
  /-- Digits and perhaps a point with digits after it. -/
  | whole {digits : List Char} : Digits digits → Mantissa digits
  | decimal {digits fraction : List Char} :
    Digits digits → (∀ c ∈ fraction, c.isDigit = true) → Mantissa (digits ++ '.' :: fraction)
  /-- Nothing in front of the point. -/
  | fraction {digits : List Char} : Digits digits → Mantissa ('.' :: digits)

/-- An optional power of ten. -/
inductive Exponent : List Char → Prop where
  | none : Exponent []
  | power {mark : Char} {sign digits : List Char} :
    mark = 'e' ∨ mark = 'E' → Sign sign → Digits digits → Exponent (mark :: (sign ++ digits))

/-- A decimal number: a sign, a mantissa and a power of ten, of which the sign and
the power may be missing. -/
def Numeral (cs : List Char) : Prop :=
  ∃ sign mantissa exponent, Sign sign ∧ Mantissa mantissa ∧ Exponent exponent ∧
    cs = sign ++ mantissa ++ exponent

/-! ## The parts of the test -/

variable {cs rest digits : List Char}

/-- The test on digits is the one of the grammar. -/
theorem isDigits_iff : isDigits cs = true ↔ Digits cs := by
  simp only [isDigits, Digits, Bool.and_eq_true, Bool.not_eq_true', List.isEmpty_eq_false_iff,
    List.all_eq_true]

/-- A sign is dropped, and nothing but a sign. -/
theorem exists_sign_dropSign (cs : List Char) : ∃ sign, Sign sign ∧ cs = sign ++ dropSign cs := by
  unfold dropSign
  split
  · exact ⟨['+'], .plus, rfl⟩
  · exact ⟨['-'], .minus, rfl⟩
  · exact ⟨[], .none, rfl⟩

/-- One sign is dropped, and an unsigned rest is left. -/
theorem dropSign_append {sign : List Char} (h : Sign sign)
    (unsigned : ∀ c ∈ rest.head?, c ≠ '+' ∧ c ≠ '-') : dropSign (sign ++ rest) = rest := by
  cases h with
  | plus => rfl
  | minus => rfl
  | none =>
    rw [List.nil_append]
    unfold dropSign
    split
    · exact absurd rfl (unsigned '+' rfl).1
    · exact absurd rfl (unsigned '-' rfl).2
    · rfl

theorem Digits.head (h : Digits digits) (rest : List Char) :
    ∀ c ∈ (digits ++ rest).head?, c.isDigit = true := by
  obtain ⟨nonempty, all⟩ := h
  cases digits with
  | nil => exact absurd rfl nonempty
  | cons d digits =>
    intro c head
    cases head
    exact all d List.mem_cons_self

theorem not_sign_of_isDigit {c : Char} (h : c.isDigit = true) : c ≠ '+' ∧ c ≠ '-' := by
  constructor <;> rintro rfl <;> exact absurd h (by decide)

/-- The test on exponents is the one of the grammar. -/
theorem isExponentPart_iff : isExponentPart cs = true ↔ Exponent cs := by
  constructor
  · intro h
    cases cs with
    | nil => exact .none
    | cons mark cs =>
      simp only [isExponentPart, Bool.and_eq_true, Bool.or_eq_true, beq_iff_eq, isDigits_iff] at h
      obtain ⟨sign, signed, split⟩ := exists_sign_dropSign cs
      rw [split]
      exact .power h.1 signed h.2
  · rintro (_ | ⟨marked, signed, digits⟩)
    · rfl
    · rw [isExponentPart, dropSign_append signed, isDigits_iff.mpr digits]
      · simpa using marked
      · intro c head
        exact not_sign_of_isDigit (digits.head [] c (by rwa [List.append_nil]))

/-- An exponent cannot be mistaken for more of the mantissa. -/
theorem Exponent.head (h : Exponent cs) :
    ∀ c ∈ cs.head?, c.isDigit = false ∧ c ≠ '.' ∧ c ≠ '+' ∧ c ≠ '-' := by
  rcases h with _ | ⟨rfl | rfl, _, _⟩
  · simp
  · rintro c ⟨⟩; decide
  · rintro c ⟨⟩; decide

/-- The test that reads digit by digit is the one of the grammar: what it takes for the mantissa
is one, and the rest is an exponent or nothing. -/
theorem isUnsignedNumeral_iff : isUnsignedNumeral cs = true ↔
    ∃ mantissa exponent, Mantissa mantissa ∧ Exponent exponent ∧ cs = mantissa ++ exponent := by
  constructor
  · intro h
    have split := (List.takeWhile_append_dropWhile (p := Char.isDigit) (l := cs)).symm
    have digits : ∀ c ∈ cs.takeWhile Char.isDigit, c.isDigit = true :=
      List.all_eq_true.mp List.all_takeWhile
    simp only [isUnsignedNumeral] at h
    -- Only that the digits are digits matters from here on, not how they were found.
    generalize cs.takeWhile Char.isDigit = whole at split digits h
    generalize cs.dropWhile Char.isDigit = after at split h
    subst split
    split at h
    · rename_i rest
      have split := (List.takeWhile_append_dropWhile (p := Char.isDigit) (l := rest)).symm
      have digits' : ∀ c ∈ rest.takeWhile Char.isDigit, c.isDigit = true :=
        List.all_eq_true.mp List.all_takeWhile
      generalize rest.takeWhile Char.isDigit = fraction at split digits' h
      generalize rest.dropWhile Char.isDigit = exponent at split h
      subst split
      simp only [Bool.and_eq_true, Bool.or_eq_true, Bool.not_eq_true', List.isEmpty_eq_false_iff,
        isExponentPart_iff] at h
      by_cases nonempty : whole = []
      · subst nonempty
        have nonempty' := h.1.resolve_left (absurd rfl)
        exact ⟨'.' :: fraction, exponent, .fraction ⟨nonempty', digits'⟩, h.2, rfl⟩
      · have mantissa := Mantissa.decimal ⟨nonempty, digits⟩ digits'
        exact ⟨whole ++ '.' :: fraction, exponent, mantissa, h.2, by simp⟩
    · simp only [Bool.and_eq_true, Bool.not_eq_true', List.isEmpty_eq_false_iff,
        isExponentPart_iff] at h
      exact ⟨whole, after, .whole ⟨h.1, digits⟩, h.2, rfl⟩
  · rintro ⟨mantissa, exponent, shaped, powered, rfl⟩
    have stops : ∀ c ∈ exponent.head?, c.isDigit = false := fun c head => (powered.head c head).1
    cases shaped with
    | whole digits =>
      obtain ⟨taken, left⟩ := takeWhile_dropWhile_append digits.2 stops
      rw [isUnsignedNumeral, left, taken]
      split
      · exact absurd rfl (powered.head '.' rfl).2.1
      · simp [isExponentPart_iff, powered, digits.1]
    | decimal digits fraction =>
      rename_i whole fraction'
      -- The point ends the first run of digits, the exponent the second one.
      have stops' : ∀ c ∈ ('.' :: (fraction' ++ exponent)).head?, c.isDigit = false := by simp
      obtain ⟨taken, left⟩ := takeWhile_dropWhile_append digits.2 stops'
      obtain ⟨taken', left'⟩ := takeWhile_dropWhile_append fraction stops
      rw [List.append_assoc, List.cons_append, isUnsignedNumeral, left, taken]
      simp [taken', left', isExponentPart_iff, powered, digits.1]
    | fraction digits =>
      obtain ⟨taken, left⟩ := takeWhile_dropWhile_append digits.2 stops
      rw [List.cons_append, isUnsignedNumeral]
      simp [taken, left, isExponentPart_iff, powered, digits.1]

/-- A mantissa does not begin with a sign. -/
theorem Mantissa.head {mantissa : List Char} (h : Mantissa mantissa) (rest : List Char) :
    ∀ c ∈ (mantissa ++ rest).head?, c ≠ '+' ∧ c ≠ '-' := by
  intro c head
  cases h with
  | whole digits => exact not_sign_of_isDigit (digits.head rest c head)
  | decimal digits _ =>
    rw [List.append_assoc] at head
    exact not_sign_of_isDigit (digits.head _ c head)
  | fraction _ => cases head; decide

/-- The test accepts the numerals and nothing else. -/
theorem isNumeral_iff : isNumeral cs = true ↔ Numeral cs := by
  rw [isNumeral, isUnsignedNumeral_iff]
  constructor
  · rintro ⟨mantissa, exponent, shaped, powered, same⟩
    obtain ⟨sign, signed, split⟩ := exists_sign_dropSign cs
    exact ⟨sign, mantissa, exponent, signed, shaped, powered,
      by rw [split, same, List.append_assoc]⟩
  · rintro ⟨sign, mantissa, exponent, signed, shaped, powered, rfl⟩
    refine ⟨mantissa, exponent, shaped, powered, ?_⟩
    rw [List.append_assoc, dropSign_append signed]
    exact shaped.head exponent

/-! ## Numerals are words -/

theorem Numeral.ne_nil (h : Numeral cs) : cs ≠ [] := by
  obtain ⟨sign, mantissa, exponent, _, shaped, _, rfl⟩ := h
  cases shaped with
  | whole digits => simp [digits.1]
  | decimal _ _ => simp
  | fraction _ => simp

/-- The characters that can occur in a numeral. -/
def isNumeralChar (c : Char) : Bool :=
  c.isDigit || c == '+' || c == '-' || c == '.' || c == 'e' || c == 'E'

theorem isNumeralChar_of_isDigit {c : Char} (h : c.isDigit = true) : isNumeralChar c = true := by
  simp [isNumeralChar, h]

theorem Sign.numeralChars {sign : List Char} (h : Sign sign) :
    ∀ c ∈ sign, isNumeralChar c = true := by
  cases h <;> simp [isNumeralChar]

theorem Mantissa.numeralChars {mantissa : List Char} (h : Mantissa mantissa) :
    ∀ c ∈ mantissa, isNumeralChar c = true := by
  have point : isNumeralChar '.' = true := by decide
  cases h with
  | whole digits => exact fun c mem => isNumeralChar_of_isDigit (digits.2 c mem)
  | decimal digits fraction =>
    intro c mem
    rcases List.mem_append.mp mem with mem | mem
    · exact isNumeralChar_of_isDigit (digits.2 c mem)
    · rcases List.mem_cons.mp mem with rfl | mem
      · exact point
      · exact isNumeralChar_of_isDigit (fraction c mem)
  | fraction digits =>
    intro c mem
    rcases List.mem_cons.mp mem with rfl | mem
    · exact point
    · exact isNumeralChar_of_isDigit (digits.2 c mem)

theorem Exponent.numeralChars {exponent : List Char} (h : Exponent exponent) :
    ∀ c ∈ exponent, isNumeralChar c = true := by
  rcases h with _ | ⟨marked, signed, digits⟩
  · simp
  · intro c mem
    rcases List.mem_cons.mp mem with rfl | mem
    · rcases marked with rfl | rfl <;> decide
    · rcases List.mem_append.mp mem with mem | mem
      · exact signed.numeralChars c mem
      · exact isNumeralChar_of_isDigit (digits.2 c mem)

/-- No printed ASCII character behind the space is blank. -/
theorem isBlank_eq_false {c : Char} (low : 0x20 < c.toNat) (high : c.toNat < 0x7F) :
    isBlank c = false := by
  simp only [isBlank, Bool.or_eq_false_iff, Bool.and_eq_false_iff, decide_eq_false_iff_not,
    beq_eq_false_iff_ne]
  omega

theorem isBlank_eq_false_of_isDigit {c : Char} (h : c.isDigit = true) : isBlank c = false := by
  simp only [Char.isDigit, ge_iff_le, Bool.and_eq_true, decide_eq_true_eq,
    UInt32.le_iff_toNat_le] at h
  have low : 48 ≤ c.toNat := h.1
  have high : c.toNat ≤ 57 := h.2
  exact isBlank_eq_false (by omega) (by omega)

theorem ofSymbol?_eq_none_of_isDigit {c : Char} (h : c.isDigit = true) :
    Token.ofSymbol? c = none := by
  unfold Token.ofSymbol?
  split
  case h_10 => rfl
  all_goals exact absurd h (by decide)

/-- A numeral is made of word characters, none of which is a token on its own. -/
theorem isWordChar_of_isNumeralChar {c : Char} (h : isNumeralChar c = true) :
    isWordChar c = true ∧ Token.ofSymbol? c = none := by
  simp only [isNumeralChar, Bool.or_eq_true, beq_iff_eq] at h
  rcases h with ((((digit | rfl) | rfl) | rfl) | rfl) | rfl
  · refine ⟨?_, ofSymbol?_eq_none_of_isDigit digit⟩
    have differs (d : Char) (other : d.isDigit = false) : c ≠ d := by
      rintro rfl
      exact absurd (digit.symm.trans other) (by decide)
    simp [isWordChar, isBlank_eq_false_of_isDigit digit, differs]
  all_goals decide

/-- A numeral is a word, in which no character is a token by itself. -/
theorem Numeral.wordChars (h : Numeral cs) :
    ∀ c ∈ cs, isWordChar c = true ∧ Token.ofSymbol? c = none := by
  obtain ⟨sign, mantissa, exponent, signed, shaped, powered, rfl⟩ := h
  intro c mem
  apply isWordChar_of_isNumeralChar
  rcases List.mem_append.mp mem with mem | mem
  · rcases List.mem_append.mp mem with mem | mem
    · exact signed.numeralChars c mem
    · exact shaped.numeralChars c mem
  · exact powered.numeralChars c mem

end TexMarkup
