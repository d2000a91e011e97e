import TexMarkup.Uri.Domain

/-!
# Absolute addresses

An address starts with its scheme. Some schemes are special: their addresses always
name a host, whose name is held to the rules of host names, and a backslash counts
as a slash in them. Other addresses name a host only after two slashes, and its
name is free text. What follows the host is never refused.

## Main definitions

* `acceptedSchemes`, `isAcceptedScheme`: the schemes that links may use.
* `scheme?`: the scheme of a well-formed address.
* `AddressReader`: how addresses are read, which is a parameter of the evaluation.
-/

namespace TexMarkup.Uri

/-- The schemes that links may use. -/
def acceptedSchemes : List String :=
  ["http", "https", "ftp", "ftps", "mailto", "irc", "news", "gopher"]

/-- Whether links may use the scheme. -/
def isAcceptedScheme (scheme : String) : Bool :=
  acceptedSchemes.contains scheme

/-- Whether addresses of the scheme always name a host. -/
def isSpecial (scheme : List Char) : Bool :=
  ["http", "https", "ftp", "ws", "wss"].contains (String.ofList scheme)

/-! ## Schemes -/

/-- The characters that matter: controls and spaces at the edges are dropped, and
tabs and line breaks everywhere. -/
def clean (cs : List Char) : List Char :=
  let isEdge (c : Char) : Bool := c.toNat ≤ 0x20
  (((cs.dropWhile isEdge).reverse.dropWhile isEdge).reverse).filter fun c =>
    c != '\t' && c != '\n' && c != '\r'

/-- Whether the character can stand in a scheme. -/
def isSchemeChar (c : Char) : Bool :=
  c.isAlphanum || c == '+' || c == '-' || c == '.'

/-- The scheme in small letters, and what follows its colon. -/
def splitScheme? (cs : List Char) : Option (List Char × List Char) :=
  match cs with
  | [] => none
  | first :: _ =>
    if first.isAlpha then
      match cs.dropWhile isSchemeChar with
      | ':' :: rest => some ((cs.takeWhile isSchemeChar).map Char.toLower, rest)
      | _ => none
    else none

/-! ## Hosts -/

/-- Whether the character ends the part of an address that names the host. -/
def endsAuthority (special : Bool) (c : Char) : Bool :=
  c == '/' || c == '?' || c == '#' || (special && c == '\\')

/-- What stands before the last at sign, if there is one, and what stands after
it. -/
def splitCredentials (cs : List Char) : Option (List Char) × List Char :=
  let host := (cs.reverse.takeWhile (· != '@')).reverse
  if host.length = cs.length then (none, cs)
  else (some (cs.take (cs.length - host.length - 1)), host)

/-- The host, up to the first colon that is not in brackets, and what follows it. -/
def splitHost (inBrackets : Bool) : List Char → List Char × List Char
  | [] => ([], [])
  | c :: cs =>
    if c = ':' ∧ !inBrackets then ([], c :: cs)
    else
      let inBrackets := c = '[' || (inBrackets && c ≠ ']')
      let host := splitHost inBrackets cs
      (c :: host.1, host.2)

/-- Whether a colon and a service number are well formed: digits that make up a
number below `2 ^ 16`. Only in an address that is not special can a backslash follow
them. -/
def isServiceNumber (special : Bool) : List Char → Bool
  | ':' :: cs =>
    (digitsIn? 10 (cs.takeWhile Char.isDigit)).any (· < 2 ^ 16) &&
      (match cs.dropWhile Char.isDigit with
        | [] => true
        | c :: _ => !special && c == '\\')
  | _ => true

/-- Whether the text is an address of version six in brackets. -/
def isBracketed (cs : List Char) : Bool :=
  cs.getLast? == some ']' && isIpv6 (cs.tail.dropLast)

/-- Whether the text may name a host in an address that is not special. -/
def isOpaqueHost (cs : List Char) : Bool :=
  if cs.head? = some '[' then isBracketed cs
  else !cs.any ("\x00\t\n\r #/:<>?@[\\]^|".toList.contains ·)

/-- Whether the text may name a host in a special address. -/
def isSpecialHost (cs : List Char) : Bool :=
  if cs.head? = some '[' then isBracketed cs else !cs.isEmpty && isHost cs

/-- Whether what follows the slashes of an address starts with a host that may stand
there, after a user name and a password and before a service number. Without a host
there can be no service number, no user name and no password. -/
def hasAuthority (special : Bool) (cs : List Char) : Bool :=
  let authority := cs.takeWhile fun c => !endsAuthority special c
  let after := cs.dropWhile fun c => !endsAuthority special c
  let (credentials, rest) := splitCredentials authority
  let (host, service) := splitHost false rest
  let hasCredentials := match credentials with
    | some text => text != [] && text != [':']
    | none => false
  -- An at sign alone is let through only at the very end of the text.
  let onlyAtSign := credentials == some [] && rest.isEmpty && !after.isEmpty
  !onlyAtSign && isServiceNumber special service &&
    (if special then isSpecialHost host
    else if host.isEmpty then service.isEmpty && !hasCredentials
    else isOpaqueHost host)

/-- The scheme of an address in small letters, if the text is a well-formed
address. -/
def scheme? (text : String) : Option String :=
  match splitScheme? (clean text.toList) with
  | none => none
  | some (scheme, rest) =>
    let wellFormed :=
      if isSpecial scheme then
        hasAuthority true (rest.dropWhile fun c => c == '/' || c == '\\')
      else
        match rest with
        | '/' :: '/' :: rest => hasAuthority false rest
        | _ => true
    if wellFormed then some (String.ofList scheme) else none

end TexMarkup.Uri

namespace TexMarkup

/-- How addresses are read. What is rendered depends on no more of a target than its
scheme. -/
class AddressReader where
  /-- The scheme of a text, if the text is an address. -/
  scheme? : String → Option String

instance : AddressReader := ⟨Uri.scheme?⟩

end TexMarkup
