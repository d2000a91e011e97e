import TexMarkup.Number.Text
import TexMarkup.Proofs.Number.Denotation
import TexMarkup.Proofs.Text.Collapse

/-!
# Texts of numbers

The texts that count as operands are the numerals, with blanks around them or without, as long as
they denote a number that is rounded to a finite double. So the tokens for numbers are the
operands among the words, up to those that are too great; words for infinite values are none.

## Main results

* `coerceNumber_eq_some_iff`: the operands by the numbers that they denote.
* `trim_append_blank`, `coerceNumber_eq_none_of_blank_inside`: blanks around a text and in it.
* `coerceNumber_iff_isNumeral`: operands and the tokens for numbers.
-/

namespace TexMarkup

variable {text s : String} {cs front back left right : List Char} {c : Char} {x : Double}

/-! ## Blanks -/

theorem dropBlankEnd_append (blank : ∀ c ∈ back, isBlank c = true) :
    dropBlankEnd (cs ++ back) = dropBlankEnd cs := by
  have blank' : ∀ c ∈ back.reverse, isBlank c = true :=
    fun c mem => blank c (List.mem_reverse.mp mem)
  rw [dropBlankEnd, List.reverse_append, List.dropWhile_append_of_pos blank', dropBlankEnd]

/-- Blanks around a text are dropped with those at its edges. -/
theorem trim_append_blank {front back : String} (blankFront : isAllBlank front = true)
    (blankBack : isAllBlank back = true) : trim (front ++ text ++ back) = trim text := by
  rw [isAllBlank, List.all_eq_true] at blankFront blankBack
  rw [trim, String.toList_append, String.toList_append, List.append_assoc,
    List.dropWhile_append_of_pos blankFront, List.dropWhile_append, trim]
  split
  case isTrue empty =>
    rw [List.isEmpty_iff.mp empty, List.dropWhile_eq_nil_iff.mpr blankBack]
  case isFalse => rw [dropBlankEnd_append blankBack]

theorem trim_eq_self (noBlank : ∀ c ∈ text.toList, isBlank c = false) : trim text = text := by
  have kept {cs : List Char} (noBlank : ∀ c ∈ cs, isBlank c = false) :
      cs.dropWhile isBlank = cs := by
    cases cs with
    | nil => rfl
    | cons c cs => exact List.dropWhile_cons_of_neg (by simp [noBlank c List.mem_cons_self])
  have noBlank' : ∀ c ∈ text.toList.reverse, isBlank c = false :=
    fun c mem => noBlank c (List.mem_reverse.mp mem)
  rw [trim, kept noBlank, dropBlankEnd, kept noBlank', List.reverse_reverse, String.ofList_toList]

theorem Numeral.noBlank (numeral : Numeral cs) : ∀ c ∈ cs, isBlank c = false :=
  fun c mem => isBlank_eq_false_of_isWordChar (numeral.wordChars c mem).1

/-- A blank with something on both sides is not trimmed. -/
theorem mem_trim_of_blank_inside {left right : String} (someLeft : isAllBlank left = false)
    (someRight : isAllBlank right = false) (c : Char) :
    c ∈ (trim (left ++ String.singleton c ++ right)).toList := by
  -- What is dropped from an edge ends before the first character that is no blank.
  have kept {test : Char → Bool} {cs : List Char} (some : cs.all test = false) (rest : List Char) :
      (cs ++ rest).dropWhile test = cs.dropWhile test ++ rest := by
    rw [List.dropWhile_append, if_neg]
    rwa [List.isEmpty_iff, List.dropWhile_eq_nil_iff, ← List.all_eq_true, Bool.not_eq_true]
  rw [isAllBlank] at someLeft someRight
  have someRight' : right.toList.reverse.all isBlank = false := by rwa [List.all_reverse]
  rw [trim, String.toList_ofList, String.toList_append, String.toList_append,
    String.toList_singleton, List.append_assoc, kept someLeft, dropBlankEnd, ← List.append_assoc,
    List.reverse_append, kept someRight']
  simp

/-! ## Operands -/

/-- Only decimals denote finite numbers. -/
theorem coerceNumber_eq (text : String) : coerceNumber text =
    ((Decimal.parse? (trim text).toList).map Decimal.toDouble).filter Double.isFinite := by
  rw [coerceNumber, Double.parse?]
  cases Decimal.parse? (trim text).toList with
  | some d => rfl
  | none =>
    dsimp only
    split <;> rfl

/-- A text is an operand if what is left of it is read as a decimal that is not too great. -/
theorem coerceNumber_eq_some_iff : coerceNumber text = some x ↔
    ∃ d, Decimal.parse? (trim text).toList = some d ∧ |d.value| < 2 ^ 1024 - 2 ^ 970 ∧
      d.toDouble = x := by
  rw [coerceNumber_eq, Option.filter_eq_some_iff, Option.map_eq_some_iff]
  constructor
  · rintro ⟨⟨d, read, rfl⟩, finite⟩
    exact ⟨d, read, d.toDouble_isFinite_iff.mp finite, rfl⟩
  · rintro ⟨d, read, small, rfl⟩
    exact ⟨⟨d, read, rfl⟩, d.toDouble_isFinite_iff.mpr small⟩

theorem isSome_coerceNumber_iff : (coerceNumber text).isSome = true ↔
    ∃ v, Denotes (trim text).toList v ∧ |v| < 2 ^ 1024 - 2 ^ 970 := by
  simp only [Option.isSome_iff_exists, coerceNumber_eq_some_iff, Decimal.denotes_iff_parse?]
  constructor
  · rintro ⟨_, d, read, small, rfl⟩
    exact ⟨_, ⟨d, read, rfl⟩, small⟩
  · rintro ⟨_, ⟨d, read, rfl⟩, small⟩
    exact ⟨_, d, read, small, rfl⟩

/-- An operand is the double to which the number of its text is rounded. -/
theorem exists_denotes_of_coerceNumber (operand : coerceNumber text = some x) :
    ∃ v, Denotes (trim text).toList v ∧ x.IsNearest v := by
  obtain ⟨d, read, -, rfl⟩ := coerceNumber_eq_some_iff.mp operand
  exact ⟨d.value, Decimal.denotes_of_parse? read, d.toDouble_isNearest⟩

/-- A numeral for the value of a decimal is an operand if the decimal is rounded to a finite double.
The sign of zero is that of the text, not of the decimal. -/
theorem coerceNumber_of_denotes {d : Decimal} (denotes : Denotes text.toList d.value)
    (nonzero : d.value ≠ 0) (finite : d.toDouble.isFinite = true) :
    coerceNumber text = some d.toDouble := by
  obtain ⟨d', read, same⟩ := Decimal.denotes_iff_parse?.mp denotes
  have numeral : Numeral text.toList := numeral_iff_denotes.mpr ⟨_, denotes⟩
  refine coerceNumber_eq_some_iff.mpr ⟨d', ?_, ?_, ?_⟩
  · rwa [trim_eq_self numeral.noBlank]
  · rw [same]
    exact d.toDouble_isFinite_iff.mp finite
  · exact Decimal.toDouble_congr same (by rwa [same])

/-- What is no numeral when its edges are trimmed is no operand. -/
theorem coerceNumber_eq_none (noNumeral : ¬ Numeral (trim text).toList) :
    coerceNumber text = none := by
  have unread : Decimal.parse? (trim text).toList = none :=
    Option.not_isSome_iff_eq_none.mp (mt Decimal.isSome_parse?_iff.mp noNumeral)
  rw [coerceNumber_eq, unread]
  rfl

theorem coerceNumber_eq_none_of_blank_inside {left right : String} (blank : isBlank c = true)
    (someLeft : isAllBlank left = false) (someRight : isAllBlank right = false) :
    coerceNumber (left ++ String.singleton c ++ right) = none := by
  refine coerceNumber_eq_none fun numeral => ?_
  have noBlank := numeral.noBlank c (mem_trim_of_blank_inside someLeft someRight c)
  exact absurd (blank.symm.trans noBlank) (by decide)

/-! ## Tokens for numbers -/

/-- Operands and tokens for numbers are the same language. A word without blanks is an operand if
it is a numeral for a number below the middle behind the last finite double, and is then rounded.
Blanks around it change nothing, and a text with a blank inside is none. So no token for a word is
an operand, and one for a number fails to be one only if its number is too great. -/
theorem coerceNumber_iff_isNumeral :
    (∀ w : String, (∀ c ∈ w.toList, isBlank c = false) →
      ((coerceNumber w).isSome = true ↔
        isNumeral w.toList = true ∧ ∃ v, Denotes w.toList v ∧ |v| < 2 ^ 1024 - 2 ^ 970) ∧
      (∀ x, coerceNumber w = some x → ∃ v, Denotes w.toList v ∧ x.IsNearest v) ∧
      ∀ front back : String, isAllBlank front = true → isAllBlank back = true →
        coerceNumber (front ++ w ++ back) = coerceNumber w) ∧
    (∀ (left right : String) (c : Char), isBlank c = true → isAllBlank left = false →
      isAllBlank right = false → coerceNumber (left ++ String.singleton c ++ right) = none) ∧
    ∀ text : String,
      (∀ s, Token.word s ∈ tokenize text → coerceNumber s = none) ∧
      ∀ s, Token.number s ∈ tokenize text →
        (coerceNumber s = none ↔ ∃ v, Denotes s.toList v ∧ 2 ^ 1024 - 2 ^ 970 ≤ |v|) := by
  refine ⟨fun w noBlank => ⟨?_, fun x operand => ?_, fun front back blankFront blankBack => ?_⟩,
    fun left right c blank someLeft someRight =>
      coerceNumber_eq_none_of_blank_inside blank someLeft someRight,
    fun text => ⟨fun s mem => ?_, fun s mem => ?_⟩⟩
  · rw [isSome_coerceNumber_iff, trim_eq_self noBlank, isNumeral_iff]
    constructor
    · rintro ⟨v, denotes, small⟩
      exact ⟨numeral_iff_denotes.mpr ⟨v, denotes⟩, v, denotes, small⟩
    · exact And.right
  · have denotes := exists_denotes_of_coerceNumber operand
    rwa [trim_eq_self noBlank] at denotes
  · rw [coerceNumber, trim_append_blank blankFront blankBack, coerceNumber]
  · -- A word is never a numeral, because numerals are tried first.
    obtain ⟨-, wordChars, -, noNumeral⟩ := (tokenize_spec text).2.1 _ mem
    have noBlank : ∀ c ∈ s.toList, isBlank c = false :=
      fun c mem => isBlank_eq_false_of_isWordChar (wordChars c mem)
    exact coerceNumber_eq_none (by rwa [trim_eq_self noBlank])
  · have numeral : Numeral s.toList := (tokenize_spec text).2.1 _ mem
    rw [← Option.not_isSome_iff_eq_none, isSome_coerceNumber_iff, trim_eq_self numeral.noBlank]
    constructor
    · intro great
      obtain ⟨v, denotes⟩ := numeral_iff_denotes.mp numeral
      exact ⟨v, denotes, not_lt.mp fun small => great ⟨v, denotes, small⟩⟩
    · rintro ⟨v, denotes, great⟩ ⟨v', denotes', small⟩
      rw [denotes.unique denotes'] at great
      exact absurd small (not_lt.mpr great)

/-- A number too great for a double, a word for an infinite value, and a number between blanks and
with one inside. -/
theorem coerceNumber_iff_isNumeral_overflow :
    let ts := [Token.number "1e309", .space " ", .word "-Infinity"]
    (tokenize (concat ts) = ts ∧ coerceNumber "-Infinity" = none ∧
      coerceNumber "1e309" = none ∧ ∃ v, Denotes "1e309".toList v ∧ 2 ^ 1024 - 2 ^ 970 ≤ |v|) ∧
    (isNumeral "-.5".toList = true ∧ ∃ v, Denotes "-.5".toList v ∧ |v| < 2 ^ 1024 - 2 ^ 970) ∧
    coerceNumber "\t-.5\n" = coerceNumber "-.5" ∧ coerceNumber "- .5" = none := by
  intro ts
  have lexed : tokenize (concat ts) = ts := tokenize_concat (by decide)
  obtain ⟨outside, inside, tokens⟩ := coerceNumber_iff_isNumeral
  obtain ⟨words, numbers⟩ := tokens (concat ts)
  rw [lexed] at words numbers
  obtain ⟨operand, -, blanks⟩ := outside "-.5" (by decide)
  refine ⟨⟨lexed, words "-Infinity" (by decide), by decide +kernel, ?_⟩,
    operand.mp (by decide +kernel), blanks "\t" "\n" (by decide) (by decide), ?_⟩
  · exact (numbers "1e309" (by decide)).mp (by decide +kernel)
  · exact inside "-" ".5" ' ' (by decide) (by decide) (by decide)

end TexMarkup
