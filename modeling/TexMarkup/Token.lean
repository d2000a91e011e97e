/-!
# Tokens

A token is a piece of source text together with its class. Nine classes are
single characters; the other four carry the text they cover, so that the texts
of a token list, one after the other, give the source again.

## Main definitions

* `Token`: the thirteen classes.
* `Token.text`, `Token.isTextLike`, `Token.newlineCount`, `Token.describe`.
* `Token.ofSymbol?`: the class of a single-character token.

## Main results

* `Token.text_of_ofSymbol?`: a single-character token covers its character.
-/

namespace TexMarkup

/-- A lexical token. -/
inductive Token where
  /-- A backslash, which announces a command. -/
  | backslash
  /-- An opening brace. -/
  | leftBrace
  /-- A closing brace. -/
  | rightBrace
  /-- An opening bracket. -/
  | leftBracket
  /-- A closing bracket. -/
  | rightBracket
  /-- A vertical bar. -/
  | pipe
  /-- A backquote. -/
  | backquote
  /-- A tilde. -/
  | squiggle
  /-- A dollar sign. -/
  | dollar
  /-- Two or more newlines in a row, which end a paragraph. -/
  | blankLine (text : String)
  /-- Any other run of blanks. -/
  | space (text : String)
  /-- A word that is a numeral from end to end. -/
  | number (text : String)
  /-- A run of anything but blanks, braces and backslashes. -/
  | word (text : String)
  deriving DecidableEq, Repr, Inhabited

namespace Token

/-- The source text that the token covers. -/
def text : Token → String
  | backslash => "\\"
  | leftBrace => "\x7b"
  | rightBrace => "\x7d"
  | leftBracket => "["
  | rightBracket => "]"
  | pipe => "|"
  | backquote => "\x60"
  | squiggle => "~"
  | dollar => "$"
  | blankLine t | space t | number t | word t => t

/-- Tokens that stand for their own text. -/
def isTextLike : Token → Bool
  | word _ | number _ | leftBracket | rightBracket | pipe | backquote | squiggle | dollar => true
  | _ => false

/-- Whether the token separates paragraphs. -/
def isBlankLine : Token → Bool
  | blankLine _ => true
  | _ => false

/-- How many lines the token ends; only blanks hold newlines. -/
def newlineCount : Token → Nat
  | blankLine t | space t => t.toList.count '\n'
  | _ => 0

/-- What an error message calls the token. -/
def describe : Token → String
  | blankLine _ => "a blank line"
  | space _ => "whitespace"
  | number t => "number '" ++ t ++ "'"
  | word t => "word '" ++ t ++ "'"
  | t => "'" ++ t.text ++ "'"

/-- The token of a character that is a token by itself. -/
def ofSymbol? : Char → Option Token
  | '\\' => some backslash
  | '\x7b' => some leftBrace
  | '\x7d' => some rightBrace
  | '[' => some leftBracket
  | ']' => some rightBracket
  | '|' => some pipe
  | '\x60' => some backquote
  | '~' => some squiggle
  | '$' => some dollar
  | _ => none

theorem text_of_ofSymbol? {c : Char} {t : Token} (h : ofSymbol? c = some t) :
    t.text = String.singleton c := by
  unfold ofSymbol? at h
  split at h <;> simp_all <;> subst h <;> rfl

end Token

end TexMarkup
