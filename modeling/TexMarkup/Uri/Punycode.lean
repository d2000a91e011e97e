import TexMarkup.Number.Integer

/-!
# Encoded labels

A label with characters past ASCII can be written in ASCII: first its ASCII
characters and a hyphen, then, in a notation for numbers of variable length, where
the other characters go in. The characters go in by rising code point and, for one
code point, from left to right.

## Main definitions

* `Punycode.decode?`: the label that was encoded.
-/

namespace TexMarkup.Uri.Punycode

/-- The value of a digit: letters of either case, then the decimal digits. -/
def digitValue? (c : Char) : Option Nat :=
  let n := c.toNat
  if 0x61 ≤ n ∧ n ≤ 0x7A then some (n - 0x61)
  else if 0x41 ≤ n ∧ n ≤ 0x5A then some (n - 0x41)
  else if 0x30 ≤ n ∧ n ≤ 0x39 then some (n - 0x30 + 26)
  else none

/-- The least value of a digit after which another one follows; `k` is 36 times the
position of the digit. -/
def threshold (k bias : Nat) : Nat :=
  min (max (k - bias) 1) 26

/-- Divides by 35 until what is left is small, and counts 36 for each division. -/
def adaptLoop (fuel delta k : Nat) : Nat :=
  match fuel with
  | 0 => k
  | fuel + 1 =>
    if 455 < delta then adaptLoop fuel (delta / 35) (k + 36) else k + 36 * delta / (delta + 38)

/-- The bias for the next number, from the last number and the length so far. -/
def adapt (delta length : Nat) (first : Bool) : Nat :=
  let delta := if first then delta / 700 else delta / 2
  adaptLoop 32 (delta + delta / length) 0

/-- A number at the front of the characters, added to `total`, and the characters
after it. Numbers and weights past 32 bits are refused. -/
def number? (bias k weight total : Nat) : List Char → Option (Nat × List Char)
  | [] => none
  | c :: cs => do
    let d ← digitValue? c
    let total := total + d * weight
    if 2 ^ 32 ≤ total then none
    else
      let t := threshold k bias
      if d < t then some (total, cs)
      else if 2 ^ 32 ≤ weight * (36 - t) then none
      else number? bias (k + 36) (weight * (36 - t)) total cs

theorem number?_rest_length_lt {bias k weight total n : Nat} {cs rest : List Char}
    (h : number? bias k weight total cs = some (n, rest)) : rest.length < cs.length := by
  induction cs generalizing k weight total with
  | nil => simp [number?] at h
  | cons c cs ih =>
    simp only [number?, Option.bind_eq_bind, Option.bind_eq_some_iff] at h
    obtain ⟨d, _, h⟩ := h
    split at h
    · simp at h
    · split at h
      · simp only [Option.some.injEq, Prod.mk.injEq] at h
        rw [← h.2]
        exact Nat.lt_succ_self _
      · split at h
        · simp at h
        · exact Nat.lt_succ_of_lt (ih h)

/-- Puts characters into a label as the numbers say. `code` is the last code point
and `index` the place after the last insertion. -/
def insertAll? (code index bias : Nat) (first : Bool) (label : List Char) (cs : List Char) :
    Option (List Char) :=
  match cs with
  | [] => some label
  | c :: rest =>
    match _ : number? bias 36 1 index (c :: rest) with
    | none => none
    | some (total, after) =>
      let length := label.length + 1
      let code := code + total / length
      let place := total % length
      if 0x80 ≤ code ∧ code.isValidChar then
        insertAll? code (place + 1) (adapt (total - index) length first) false
          (label.take place ++ Char.ofNat code :: label.drop place) after
      else none
termination_by cs.length
decreasing_by
  rename_i read _
  exact number?_rest_length_lt read

/-- The characters before the last hyphen and those after it; without a hyphen, or
with one in front only, there are none before it. -/
def splitLastHyphen (cs : List Char) : List Char × List Char :=
  let after := (cs.reverse.takeWhile (· != '-')).reverse
  let before := cs.take (cs.length - after.length - 1)
  if before.isEmpty then ([], cs) else (before, after)

/-- The label that was encoded. -/
def decode? (cs : List Char) : Option (List Char) :=
  let (basic, extended) := splitLastHyphen cs
  insertAll? 0x80 0 72 true (basic.map Char.toLower) extended

end TexMarkup.Uri.Punycode
