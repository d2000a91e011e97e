/-!
# Literal commands

Commands with a fixed output. Most of them write a character that has a meaning
of its own in the source.

## Main definitions

* `literals`: the canonical names and their outputs.
* `literalAliases`: other names for them.
* `literal?`: the output of a literal command.
-/

namespace TexMarkup

/-- The literal commands and what they write. -/
def literals : List (String × String) :=
  [("backslash", "\\"), ("left-brace", "\x7b"), ("right-brace", "\x7d"),
    ("left-bracket", "["), ("right-bracket", "]"), ("pipe", "|"), ("backquote", "\x60"),
    ("squiggle", "~"), ("dollar", "$"), ("br", "\n<br/>\n"), ("true", "true"),
    ("false", "false")]

/-- Other names for literal commands, and the names that they stand for. -/
def literalAliases : List (String × String) :=
  [("bslash", "backslash"), ("leftbrace", "left-brace"), ("lbrace", "left-brace"),
    ("opening-brace", "left-brace"), ("openingbrace", "left-brace"), ("obrace", "left-brace"),
    ("rightbrace", "right-brace"), ("rbrace", "right-brace"), ("closing-brace", "right-brace"),
    ("closingbrace", "right-brace"), ("cbrace", "right-brace"), ("leftbracket", "left-bracket"),
    ("lbracket", "left-bracket"), ("rightbracket", "right-bracket"),
    ("rbracket", "right-bracket"), ("bar", "pipe"), ("backtick", "backquote"),
    ("tilde", "squiggle"), ("newline", "br")]

/-- What a literal command writes, under its own name or another one. -/
def literal? (name : String) : Option String :=
  literals.lookup ((literalAliases.lookup name).getD name)

/-- A non-breaking space. -/
def nbspText : String := "&nbsp;"

/-- How many non-breaking spaces one command writes at most. -/
def maxNbspCount : Nat := 1000

end TexMarkup
