import TexMarkup.Unicode.HostCharacter
import TexMarkup.Unicode.Mark
import TexMarkup.Unicode.Normalization
import TexMarkup.Uri.Address
import TexMarkup.Uri.Punycode

/-!
# Host names

A host name is a row of labels between dots. It is folded and composed first, which
can bring dots and ASCII characters about; then each label has to be well formed, and
if any label is written from right to left all have to keep to the rules of direction.
A host whose last label is a number has to be an address.

## Main definitions

* `foldHost?`: the labels of a folded host.
* `plainLabel?`: a label without its encoding.
* `isJoinedProperly`, `followsDirection`: rules for labels past ASCII.
* `isHost`: whether a text is a host.
-/

namespace TexMarkup.Uri

open Unicode

/-- Characters of ASCII that no host name contains. -/
def isForbidden (c : Char) : Bool :=
  c.toNat ≤ 0x20 || c.toNat == 0x7F || "%#/:<>?@[\\]^|".toList.contains c

/-- The labels of a folded host, if all of its characters are allowed. -/
def foldHost? (cs : List Char) : Option (List (List Char)) := do
  let folded ← cs.mapM foldChar?
  return splitDots (normalize folded.flatten)

/-- How many characters of an encoded label are decoded at most. -/
def maxEncodedLength : Nat := 2000

/-- How many characters a label past ASCII has at most. -/
def maxLabelLength : Nat := 1000

/-- A label without its encoding. An encoded label starts with `xn--`, is written in
ASCII and stands for a folded and composed label that is not. -/
def plainLabel? (label : List Char) : Option (List Char) :=
  match label with
  | 'x' :: 'n' :: '-' :: '-' :: encoded =>
    if label.all (·.toNat < 0x80) ∧ label.getLast? ≠ some '-' ∧
        encoded.length ≤ maxEncodedLength then
      match Punycode.decode? encoded with
      | some plain =>
        if plain.all isSettled ∧ normalize plain = plain ∧ !plain.contains '.' then some plain
        else none
      | none => none
    else none
  | _ => some label

/-- The class of the signs that take the vowel from a consonant. -/
def viramaClass : Nat := 9

/-- Whether every joiner has letters to join. A joiner after a virama is always in
place. Otherwise only the one that keeps letters apart is, and only between letters
that would join. `before` holds the characters on the left, the nearest first. -/
def isJoinedProperly (before : List Char) : List Char → Bool
  | [] => true
  | c :: after =>
    let afterVirama := match before with
      | v :: _ => combiningClass v == viramaClass
      | [] => false
    let betweenLetters :=
      (match before.dropWhile isTransparent with
        | l :: _ => joinsNext l
        | [] => false) &&
      (match after.dropWhile isTransparent with
        | r :: _ => joinsPrevious r
        | [] => false)
    (match c.toNat with
      | 0x200C => afterVirama || betweenLetters
      | 0x200D => afterVirama
      | _ => true) && isJoinedProperly (c :: before) after

/-- Whether a label that is not encoded is well formed. -/
def isWellFormedLabel (label : List Char) : Bool :=
  (label.all (·.toNat < 0x80) || label.length ≤ maxLabelLength) &&
  !label.any isForbidden &&
  (match label with
    | first :: _ => !isMark first
    | [] => true) &&
  isJoinedProperly [] label

/-- Whether a character makes the direction of its host matter. -/
def setsDirection (c : Char) : Bool :=
  match direction c with
  | .rightToLeft | .arabicNumber => true
  | _ => false

/-- Whether a label keeps to one direction. It starts with a letter. From left to
right it holds no letters of the other direction and no Arabic digits, and ends
with a letter or a European digit. From right to left it holds no letters of the
other direction and digits of one kind only, and ends with a letter or a digit.
Marks at the end do not count. -/
def followsDirection (label : List Char) : Bool :=
  let directions := label.map direction
  let last := (directions.reverse.dropWhile (· == .nonspacing)).head?
  match directions with
  | [] => true
  | .leftToRight :: _ =>
    !directions.contains .rightToLeft && !directions.contains .arabicNumber &&
      (last == some .leftToRight || last == some .europeanNumber)
  | .rightToLeft :: _ =>
    !directions.contains .leftToRight &&
      !(directions.contains .europeanNumber && directions.contains .arabicNumber) &&
      (last == some .rightToLeft || last == some .europeanNumber || last == some .arabicNumber)
  | _ => false

/-- Whether labels, without their encoding, form a host name. -/
def isHostName (labels : List (List Char)) : Bool :=
  labels.all isWellFormedLabel &&
    (!labels.any (·.any setsDirection) || labels.all followsDirection)

/-- Whether a text is the name or the address of a host. Octets may be written with
percent signs. -/
def isHost (cs : List Char) : Bool :=
  match (decodeUtf8 (percentDecode cs)).bind foldHost? with
  | none => false
  | some labels =>
    match labels.mapM plainLabel? with
    | none => false
    -- Rules on characters hold for plain labels, rules on numbers for encoded ones.
    | some plain =>
      isHostName plain && labels != [[]] && (!endsInNumber labels || isIpv4 labels)

end TexMarkup.Uri
