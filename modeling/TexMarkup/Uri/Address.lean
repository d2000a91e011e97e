import TexMarkup.Number.Integer
import TexMarkup.Uri.Octets

/-!
# Numeric addresses

A host can be the number of a machine instead of its name. Addresses of version
four have up to four parts, in decimal, octal or hexadecimal notation, of which
the last fills all the octets that are left. Addresses of version six have eight
groups of hexadecimal digits, of which one run of zeros can be left out and the
last two can be written as an address of version four.

## Main definitions

* `endsInNumber`, `isIpv4`: hosts by the parts between their dots.
* `isIpv6`: the text between brackets.
-/

namespace TexMarkup.Uri

/-- The number that digits denote in some base, if they are digits of that base. -/
def digitsIn? (base : Nat) (cs : List Char) : Option Nat :=
  cs.foldlM (fun n c => do
    let d ← hexValue? c
    if d < base then some (base * n + d) else none) 0

/-- The number that a part of an address denotes. The prefix of a hexadecimal
number may stand alone. -/
def ipv4Number? : List Char → Option Nat
  | [] => none
  | '0' :: 'x' :: cs => digitsIn? 16 cs
  | '0' :: 'X' :: cs => digitsIn? 16 cs
  | ['0'] => some 0
  | '0' :: cs => digitsIn? 8 cs
  | cs => digitsIn? 10 cs

/-- The parts without an empty last one. -/
def dropEmptyLast (parts : List (List Char)) : List (List Char) :=
  match parts.getLast? with
  | some [] => parts.dropLast
  | _ => parts

/-- Whether the last part that is not empty is a number, so that the host can only
be an address. -/
def endsInNumber (parts : List (List Char)) : Bool :=
  match (if parts.length = 1 then parts else dropEmptyLast parts).getLast? with
  | some last =>
    (!last.isEmpty && last.all Char.isDigit) || (ipv4Number? last).isSome
  | none => false

/-- Whether parts form an address: at most four numbers, of which all but the last
fit into an octet and the last fits into the octets that are left. -/
def isIpv4 (parts : List (List Char)) : Bool :=
  match (dropEmptyLast parts).mapM ipv4Number? with
  | none => false
  | some numbers =>
    match numbers.getLast? with
    | none => false
    | some last =>
      numbers.length ≤ 4 && numbers.dropLast.all (· < 256) &&
        last < 256 ^ (5 - numbers.length)

/-- Whether the characters are a number below 256 without a superfluous zero. -/
def isDecimalOctet (cs : List Char) : Bool :=
  match digitsIn? 10 cs with
  | some n => !cs.isEmpty && n < 256 && (cs.length == 1 || cs.head? != some '0')
  | none => false

/-- The parts of a text between dots. -/
def splitDots : List Char → List (List Char)
  | [] => [[]]
  | c :: cs =>
    match splitDots cs with
    | [] => [[c]]
    | part :: parts => if c = '.' then [] :: part :: parts else (c :: part) :: parts

/-- Whether the characters are four octets in decimal notation. -/
def isDottedQuad (cs : List Char) : Bool :=
  let parts := splitDots cs
  parts.length == 4 && parts.all isDecimalOctet

/-- At most four leading hexadecimal digits, and what follows them. -/
def takeHex : Nat → List Char → List Char × List Char
  | 0, cs => ([], cs)
  | _, [] => ([], [])
  | n + 1, c :: cs =>
    if (hexValue? c).isSome then
      let digits := takeHex n cs
      (c :: digits.1, digits.2)
    else ([], c :: cs)

theorem takeHex_rest_length_le (n : Nat) (cs : List Char) :
    (takeHex n cs).2.length ≤ cs.length := by
  induction n generalizing cs with
  | zero => simp [takeHex]
  | succ n ih =>
    cases cs with
    | nil => simp [takeHex]
    | cons c cs =>
      unfold takeHex
      split
      · exact Nat.le_succ_of_le (ih cs)
      · simp

/-- Whether the characters are what is left of an address after `count` of its eight
groups. An empty group stands for a run of zeros, of which there is at most one,
and `compressed` tells whether there has been one already. -/
def isIpv6Rest (count : Nat) (compressed : Bool) (cs : List Char) : Bool :=
  match cs with
  | [] => compressed || count == 8
  | ':' :: rest => count < 8 && !compressed && isIpv6Rest (count + 1) true rest
  | c :: rest =>
    if 8 ≤ count then false
    else
      match h : takeHex 4 (c :: rest) with
      | (_ :: _, []) => compressed || count + 1 == 8
      | (_ :: _, '.' :: _) =>
        count ≤ 6 && isDottedQuad (c :: rest) && (compressed || count + 2 == 8)
      | (_ :: _, ':' :: d :: after) =>
        isIpv6Rest (count + 1) compressed (d :: after)
      | _ => false
termination_by cs.length
decreasing_by
  · exact Nat.lt_succ_self _
  · have := takeHex_rest_length_le 4 (c :: rest)
    rw [h] at this
    simp only [List.length_cons] at this ⊢
    omega

/-- Whether the characters are an address. One that starts with a colon starts with
a run of zeros. -/
def isIpv6 : List Char → Bool
  | ':' :: ':' :: rest => isIpv6Rest 1 true rest
  | ':' :: _ => false
  | [] => false
  | [_] => false
  | cs => isIpv6Rest 0 false cs

end TexMarkup.Uri
