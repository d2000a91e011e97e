import TexMarkup.Node
import TexMarkup.ParseError
import TexMarkup.Token.Lexer

/-!
# From tokens to trees

A parser reads commands, paragraphs and documents from lists of tokens. It
carries the nesting depth, the current line and the argument lists that it had
to close by itself because their paragraph ended first. All of this is kept when
a reading fails, so that a caller can go on with the same parser.

A reading that fails because of nesting leaves the depth one higher than it was:
the command that was refused has been entered and not been left.

## Main definitions

* `Parser`: the state of a parser.
* `Parser.command`, `Parser.paragraph`: read from the front of a token list and
  return the tokens that were not consumed.
* `Parser.block`, `Parser.document`: read a token list to its end.
* `splitParagraphs`: the tokens between blank lines.
* `parseDocument`: the document of a text under a nesting limit.
-/

namespace TexMarkup

/-! ## The state of a parser -/

/-- An argument list that its paragraph left open. -/
structure ImplicitClose where
  /-- The command whose argument list was left open. -/
  command : String
  /-- The line on which the command started. -/
  line : Nat
  deriving DecidableEq, Repr, Inhabited

/-- The state of a parser. -/
structure Parser where
  /-- How many commands may lie inside one another. -/
  maxDepth : Nat
  /-- How many commands are being read. -/
  depth : Nat := 0
  /-- The current line, counted from one. -/
  line : Nat := 1
  /-- The argument lists closed so far, in the order in which they were closed. -/
  implicitCloses : List ImplicitClose := []
  deriving DecidableEq, Repr, Inhabited

/-- The nesting limit that applies when none is asked for. -/
def defaultMaxDepth : Nat := 200

/-- What a reading gives: a value or an error, and in both cases the parser. -/
abbrev Reading (α : Type) := EStateM.Result ParseError Parser α

/-- The tokens between blank lines. Blank lines at either end and next to one
another leave empty groups. -/
def splitParagraphs : List Token → List (List Token)
  | [] => [[]]
  | t :: ts =>
    match splitParagraphs ts with
    | [] => [[t]]
    | group :: groups => if t.isBlankLine then [] :: group :: groups else (t :: group) :: groups

namespace Parser

/-- The parser after a token has been consumed. -/
def advance (p : Parser) (t : Token) : Parser :=
  { p with line := p.line + t.newlineCount }

/-- The parser inside one more command. -/
def enter (p : Parser) : Parser :=
  { p with depth := p.depth + 1 }

/-- The parser after the command that it was in. -/
def leave (p : Parser) : Parser :=
  { p with depth := p.depth - 1 }

/-- The parser after it has closed an argument list by itself. -/
def closeImplicitly (p : Parser) (command : String) (line : Nat) : Parser :=
  { p with implicitCloses := p.implicitCloses ++ [⟨command, line⟩] }

/-- The error of a command that starts with these tokens instead of a name. -/
def missingName (p : Parser) (found : List Token) : ParseError :=
  .missingCommandName p.line ((found.head?.map Token.describe).getD "end of input")

/-! ## Commands and their arguments

A step returns what it has read together with the tokens that are left and with the
reason why they are fewer, which is why reading ends. -/

mutual

/-- Reads a command; what is left is shorter than what was given. -/
def commandStep (p : Parser) (ts : List Token) :
    Reading { r : Node × List Token // r.2.length < ts.length } :=
  match ts with
  | .backslash :: .word name :: rest =>
    -- The command counts before the limit is looked at.
    if p.depth + 1 > p.maxDepth then
      .error (.nestingTooDeep p.line p.maxDepth) p.enter
    else
      match rest with
      | .leftBrace :: inner =>
        match argumentsStep p.enter name p.line inner with
        | .ok ⟨(children, after), h⟩ q =>
          .ok ⟨(.command name children, after), by simp only [List.length_cons] at h ⊢; omega⟩
            q.leave
        | .error e q => .error e q.leave
      -- One run of blanks only sets the name off from what follows.
      | .space s :: after =>
        .ok ⟨(.command name [], after), by simp only [List.length_cons]; omega⟩
          (p.advance (.space s))
      | after => .ok ⟨(.command name [], after), by simp only [List.length_cons]; omega⟩ p
  | .backslash :: found => .error (p.missingName found) p
  | found => .error (p.missingName found) p
termination_by 2 * ts.length
decreasing_by
  simp only [List.length_cons]
  omega

/-- Reads the arguments of a command up to the closing brace, which is consumed,
or up to the end of the paragraph. An opening brace has no meaning here and is
kept as text. -/
def argumentsStep (p : Parser) (name : String) (line : Nat) (ts : List Token) :
    Reading { r : List Node × List Token // r.2.length ≤ ts.length } :=
  match ts with
  | [] => .ok ⟨([], []), Nat.le_refl _⟩ (p.closeImplicitly name line)
  -- The blank line is left to the lists further out, which it closes too.
  | .blankLine s :: rest =>
    .ok ⟨([], .blankLine s :: rest), Nat.le_refl _⟩ (p.closeImplicitly name line)
  | .rightBrace :: rest => .ok ⟨([], rest), Nat.le_succ _⟩ p
  | .backslash :: rest =>
    match commandStep p (.backslash :: rest) with
    | .ok ⟨(node, after), h⟩ q =>
      match argumentsStep q name line after with
      | .ok ⟨(nodes, last), h'⟩ q' => .ok ⟨(node :: nodes, last), by
          simp only [] at h h' ⊢; omega⟩ q'
      | .error e q' => .error e q'
    | .error e q => .error e q
  | .space s :: rest =>
    match argumentsStep (p.advance (.space s)) name line rest with
    | .ok ⟨(nodes, last), h⟩ q => .ok ⟨(.space :: nodes, last), Nat.le_succ_of_le h⟩ q
    | .error e q => .error e q
  | t :: rest =>
    match argumentsStep p name line rest with
    | .ok ⟨(nodes, last), h⟩ q => .ok ⟨(.text t.text :: nodes, last), Nat.le_succ_of_le h⟩ q
    | .error e q => .error e q
termination_by 2 * ts.length + 1
decreasing_by
  · exact Nat.lt_succ_self _
  · simp only [] at h ⊢; omega
  · simp only [List.length_cons]; omega
  · simp only [List.length_cons]; omega

end

/-- Reads a command from the front of the tokens: a backslash, a word, and then
an argument list, one run of blanks or nothing. -/
def command (p : Parser) (ts : List Token) : Reading (Node × List Token) :=
  match p.commandStep ts with
  | .ok r q => .ok r.1 q
  | .error e q => .error e q

/-- Reads nodes up to the first brace or blank line, which is not consumed; what
is left is no longer than what was given. -/
def paragraphStep (p : Parser) (ts : List Token) :
    Reading { r : List Node × List Token // r.2.length ≤ ts.length } :=
  match ts with
  | [] => .ok ⟨([], []), Nat.le_refl _⟩ p
  | .backslash :: rest =>
    match p.commandStep (.backslash :: rest) with
    | .ok ⟨(node, after), h⟩ q =>
      match q.paragraphStep after with
      | .ok ⟨(nodes, last), h'⟩ q' => .ok ⟨(node :: nodes, last), by
          simp only [] at h h' ⊢; omega⟩ q'
      | .error e q' => .error e q'
    | .error e q => .error e q
  | .space s :: rest =>
    match (p.advance (.space s)).paragraphStep rest with
    | .ok ⟨(nodes, last), h⟩ q => .ok ⟨(.space :: nodes, last), Nat.le_succ_of_le h⟩ q
    | .error e q => .error e q
  | t :: rest =>
    if t.isTextLike then
      match p.paragraphStep rest with
      | .ok ⟨(nodes, last), h⟩ q => .ok ⟨(.text t.text :: nodes, last), Nat.le_succ_of_le h⟩ q
      | .error e q => .error e q
    else .ok ⟨([], t :: rest), Nat.le_refl _⟩ p
termination_by ts.length
decreasing_by
  · exact h
  · exact Nat.lt_succ_self _
  · exact Nat.lt_succ_self _

/-- Reads nodes up to the first brace or blank line, which is not consumed, so
that a surrounding command can see the brace that closes it. -/
def paragraph (p : Parser) (ts : List Token) : Reading (List Node × List Token) :=
  match p.paragraphStep ts with
  | .ok r q => .ok r.1 q
  | .error e q => .error e q

/-! ## Paragraphs and documents

From here on every token is read, so nothing is returned beside the nodes. -/

/-- Reads every token. A brace that belongs to no command becomes text and a
blank line becomes a space. -/
def nodes (p : Parser) (ts : List Token) : Reading (List Node) :=
  match p.paragraphStep ts with
  | .error e q => .error e q
  | .ok ⟨(before, []), _⟩ q => .ok before q
  | .ok ⟨(before, stray :: rest), _⟩ q =>
    let node := if stray.isBlankLine then Node.space else .text stray.text
    match (q.advance stray).nodes rest with
    | .ok after q' => .ok (before ++ node :: after) q'
    | .error e q' => .error e q'
termination_by ts.length
decreasing_by
  rename_i shorter
  exact shorter

/-- The nodes without the spaces at either edge. -/
def trimSpaces (ns : List Node) : List Node :=
  ((ns.dropWhile Node.isSpace).reverse.dropWhile Node.isSpace).reverse

/-- Reads every token as one paragraph without spaces at its edges. -/
def block (p : Parser) (ts : List Token) : Reading Paragraph :=
  match p.nodes ts with
  | .ok ns q => .ok ⟨trimSpaces ns⟩ q
  | .error e q => .error e q

/-- Reads groups of tokens as paragraphs; after each group comes the blank line
that ends it, as long as there are any. -/
def groups (p : Parser) : List (List Token) → List Token → Reading (List Paragraph)
  | [], _ => .ok [] p
  | group :: rest, separators =>
    match p.block group with
    | .error e q => .error e q
    | .ok paragraph q =>
      let next := match separators with
        | [] => q
        | separator :: _ => q.advance separator
      match next.groups rest separators.tail with
      | .ok paragraphs q' => .ok (paragraph :: paragraphs) q'
      | .error e q' => .error e q'

/-- Reads every token. Blank lines separate the paragraphs and belong to none. -/
def document (p : Parser) (ts : List Token) : Reading Document :=
  match p.groups (splitParagraphs ts) (ts.filter Token.isBlankLine) with
  | .ok paragraphs q => .ok ⟨paragraphs⟩ q
  | .error e q => .error e q

end Parser

/-! ## Readings with a parser of their own -/

/-- A reading without the state of the parser. -/
def Reading.toExcept {α : Type} : Reading α → Except ParseError α
  | .ok a _ => .ok a
  | .error e _ => .error e

/-- The document of a text in which commands nest at most `maxDepth` deep. -/
def parseDocument (text : String) (maxDepth : Nat := defaultMaxDepth) :
    Except ParseError Document :=
  Reading.toExcept (Parser.document (Parser.mk maxDepth 0 1 []) (tokenize text))

/-- The command at the front of the tokens, and the tokens after it. -/
def parseCommand (ts : List Token) : Except ParseError (Node × List Token) :=
  Reading.toExcept (Parser.command (Parser.mk defaultMaxDepth 0 1 []) ts)

/-- The nodes at the front of the tokens, and the tokens after them. -/
def parseParagraph (ts : List Token) : Except ParseError (List Node × List Token) :=
  Reading.toExcept (Parser.paragraph (Parser.mk defaultMaxDepth 0 1 []) ts)

end TexMarkup
