import TexMarkup.Number.Decimal
import TexMarkup.Proofs.Token.Numeral

/-!
# Numerals of natural numbers

A text of digits denotes a natural number. It consists of zeros, perhaps, and then of the
digits in which the number is written, which do not begin with a zero unless there is nothing
else.

## Main results

* `Decimal.natural?_eq_some_iff`: which texts denote which numbers.
* `exists_zeros_append_toDigits`: zeros in front of the digits of the number.
* `head?_toDigits_ne_zero`: no number but zero is written with a zero in front.
-/

namespace TexMarkup

variable {cs : List Char} {n : Nat}

theorem Decimal.natural?_eq_some_iff :
    natural? cs = some n ↔ Digits cs ∧ Nat.ofDigitChars 10 cs 0 = n := by
  rw [natural?, Option.ite_none_right_eq_some, List.all_eq_true, Option.some.injEq]
  rfl

theorem toNat_of_isDigit {c : Char} (digit : c.isDigit = true) :
    '0'.toNat ≤ c.toNat ∧ c.toNat - '0'.toNat < 10 := by
  simp only [Char.isDigit, Bool.and_eq_true, decide_eq_true_eq, ge_iff_le] at digit
  obtain ⟨least, greatest⟩ := digit
  have least : 48 ≤ c.toNat := least
  have greatest : c.toNat ≤ 57 := greatest
  have zero : '0'.toNat = 48 := rfl
  omega

theorem digitChar_of_isDigit {c : Char} (digit : c.isDigit = true) :
    Nat.digitChar (c.toNat - '0'.toNat) = c := by
  obtain ⟨least, small⟩ := toNat_of_isDigit digit
  refine Char.toNat_inj.mp ?_
  rw [Nat.toNat_digitChar_of_lt_ten small]
  have zero : '0'.toNat = 48 := rfl
  omega

/-- Digits are written behind those of a number that is not zero. -/
theorem toDigits_ofDigitChars (pos : 0 < n) (digits : ∀ c ∈ cs, c.isDigit = true) :
    Nat.toDigits 10 (Nat.ofDigitChars 10 cs n) = Nat.toDigits 10 n ++ cs := by
  induction cs generalizing n with
  | nil => rw [List.append_nil]; rfl
  | cons c cs ih =>
    have digit := digits c List.mem_cons_self
    obtain ⟨-, small⟩ := toNat_of_isDigit digit
    -- The first digit becomes the last one of the number in front, which is still not zero.
    have last : Nat.toDigits 10 (10 * n + (c.toNat - '0'.toNat)) = Nat.toDigits 10 n ++ [c] := by
      rw [← Nat.toDigits_append_toDigits (by decide) pos small, Nat.toDigits_of_lt_base small,
        digitChar_of_isDigit digit]
    show Nat.toDigits 10 (Nat.ofDigitChars 10 cs (10 * n + (c.toNat - '0'.toNat))) = _
    rw [ih (by omega) fun c' mem => digits c' (List.mem_cons_of_mem _ mem), last, List.append_assoc]
    rfl

theorem exists_zeros_append_toDigits (digits : Digits cs) :
    ∃ zeros, cs = List.replicate zeros '0' ++ Nat.toDigits 10 (Nat.ofDigitChars 10 cs 0) := by
  obtain ⟨some, each⟩ := digits
  induction cs with
  | nil => exact absurd rfl some
  | cons c cs ih =>
    have digit := each c List.mem_cons_self
    have each' : ∀ c' ∈ cs, c'.isDigit = true := fun c' mem => each c' (List.mem_cons_of_mem _ mem)
    by_cases zero : c = '0'
    · subst zero
      by_cases none : cs = []
      · subst none
        exact ⟨0, rfl⟩
      · obtain ⟨zeros, split⟩ := ih none each'
        refine ⟨zeros + 1, ?_⟩
        rw [List.replicate_succ, List.cons_append]
        exact congrArg ('0' :: ·) split
    · -- From the first digit on that is no zero, every digit is written.
      have pos : 0 < c.toNat - '0'.toNat := by
        obtain ⟨least, -⟩ := toNat_of_isDigit digit
        have other : '0'.toNat ≠ c.toNat := fun same => zero (Char.toNat_inj.mp same).symm
        omega
      have value : Nat.ofDigitChars 10 (c :: cs) 0 =
          Nat.ofDigitChars 10 cs (c.toNat - '0'.toNat) := by
        show Nat.ofDigitChars 10 cs (10 * 0 + (c.toNat - '0'.toNat)) = _
        rw [Nat.mul_zero, Nat.zero_add]
      refine ⟨0, ?_⟩
      rw [value, toDigits_ofDigitChars pos each',
        Nat.toDigits_of_lt_base (toNat_of_isDigit digit).2, digitChar_of_isDigit digit]
      rfl

theorem head?_toDigits_ne_zero (pos : 0 < n) : (Nat.toDigits 10 n).head? ≠ some '0' := by
  induction n using Nat.strongRecOn with
  | ind n ih =>
    by_cases small : n < 10
    · rw [Nat.toDigits_of_lt_base small]
      intro same
      have digits : ∀ n < 10, Nat.digitChar n = '0' → n = 0 := by decide
      exact pos.ne' (digits n small (Option.some.inj same))
    · have split := Nat.toDigits_append_toDigits (b := 10) (n := n / 10) (d := n % 10) (by decide)
        (by omega) (Nat.mod_lt n (by decide))
      rw [Nat.div_add_mod] at split
      have first := ih (n / 10) (by omega) (by omega)
      rw [← split, List.head?_append]
      cases head : (Nat.toDigits 10 (n / 10)).head? with
      | none =>
        have empty := List.head?_eq_none_iff.mp head
        exact absurd empty Nat.toDigits_ne_nil
      | some c =>
        rw [head] at first
        exact first

end TexMarkup
