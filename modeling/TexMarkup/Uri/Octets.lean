/-!
# Octets

A host may be written with percent signs in front of hexadecimal octets. The
octets, those of the other characters among them, spell the host in UTF-8.

## Main definitions

* `percentDecode`: the octets of a host.
* `decodeUtf8`: the characters that octets spell.
-/

namespace TexMarkup.Uri

/-- The value of a hexadecimal digit. -/
def hexValue? (c : Char) : Option Nat :=
  if '0' ≤ c ∧ c ≤ '9' then some (c.toNat - '0'.toNat)
  else if 'a' ≤ c ∧ c ≤ 'f' then some (c.toNat - 'a'.toNat + 10)
  else if 'A' ≤ c ∧ c ≤ 'F' then some (c.toNat - 'A'.toNat + 10)
  else none

/-- The octets of a character in UTF-8. -/
def encodeUtf8 (c : Char) : List Nat :=
  let n := c.toNat
  if n < 0x80 then [n]
  else if n < 0x800 then [0xC0 + n / 64, 0x80 + n % 64]
  else if n < 0x10000 then [0xE0 + n / 4096, 0x80 + n / 64 % 64, 0x80 + n % 64]
  else [0xF0 + n / 262144, 0x80 + n / 4096 % 64, 0x80 + n / 64 % 64, 0x80 + n % 64]

/-- The octets of a text in which a percent sign and two hexadecimal digits stand
for one octet. A percent sign without them stands for itself. -/
def percentDecode : List Char → List Nat
  | '%' :: a :: b :: cs =>
    match hexValue? a, hexValue? b with
    | some x, some y => (16 * x + y) :: percentDecode cs
    | _, _ => 0x25 :: percentDecode (a :: b :: cs)
  | c :: cs => encodeUtf8 c ++ percentDecode cs
  | [] => []

/-- The character with a number that takes at least `least` to write. -/
def charFrom? (least n : Nat) : Option Char :=
  if least ≤ n ∧ n.isValidChar then some (Char.ofNat n) else none

/-- The last six bits of an octet that continues a character. -/
def continuation? (b : Nat) : Option Nat :=
  if 0x80 ≤ b ∧ b < 0xC0 then some (b - 0x80) else none

/-- The characters that octets spell in UTF-8, if they spell any. -/
def decodeUtf8 : List Nat → Option (List Char)
  | [] => some []
  | a :: rest =>
    if a < 0x80 then do
      return Char.ofNat a :: (← decodeUtf8 rest)
    else
      match rest with
      | b :: rest =>
        if 0xC0 ≤ a ∧ a < 0xE0 then do
          let c ← charFrom? 0x80 ((a - 0xC0) * 64 + (← continuation? b))
          return c :: (← decodeUtf8 rest)
        else
          match rest with
          | c :: rest =>
            if 0xE0 ≤ a ∧ a < 0xF0 then do
              let c ← charFrom? 0x800
                (((a - 0xE0) * 64 + (← continuation? b)) * 64 + (← continuation? c))
              return c :: (← decodeUtf8 rest)
            else
              match rest with
              | d :: rest =>
                if 0xF0 ≤ a ∧ a < 0xF8 then do
                  let c ← charFrom? 0x10000
                    ((((a - 0xF0) * 64 + (← continuation? b)) * 64 + (← continuation? c)) * 64 +
                      (← continuation? d))
                  return c :: (← decodeUtf8 rest)
                else none
              | [] => none
          | [] => none
      | [] => none

end TexMarkup.Uri
