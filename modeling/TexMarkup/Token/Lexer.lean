import TexMarkup.Text.Blank
import TexMarkup.Token
import TexMarkup.Token.Numeral

/-!
# From text to tokens

Carriage returns are dropped; then every position starts exactly one token, so
no text is refused. A run of newlines is tried before other blanks, and a run of
blanks stops in front of a blank line, which is a token of its own.

## Main definitions

* `stripCarriageReturns`: the text without carriage returns.
* `lex`: the tokens of a list of characters.
* `tokenize`: the tokens of a text.

## Main results

* `scan_rest_length_le`: scanning a token never lengthens what is left, which is
  why `lex` ends.
-/

namespace TexMarkup

/-- The text without carriage returns. -/
def stripCarriageReturns (s : String) : String :=
  String.ofList (s.toList.filter (· != '\r'))

/-- Whether a character can stand inside a word. -/
def isWordChar (c : Char) : Bool :=
  !isBlank c && c != '\x7b' && c != '\x7d' && c != '\\'

/-- Whether two newlines follow at once. -/
def startsBlankLine : List Char → Bool
  | '\n' :: '\n' :: _ => true
  | _ => false

/-- The leading blanks up to the first blank line, and what follows them. -/
def spanSpace : List Char → List Char × List Char
  | [] => ([], [])
  | c :: cs =>
    if isBlank c && !startsBlankLine (c :: cs) then
      let run := spanSpace cs
      (c :: run.1, run.2)
    else ([], c :: cs)

/-- The token of a whole word. -/
def wordToken (cs : List Char) : Token :=
  if isNumeral cs then .number (String.ofList cs) else .word (String.ofList cs)

/-- The token that starts with `c`, and the characters after it. -/
def scan (c : Char) (cs : List Char) : Token × List Char :=
  match Token.ofSymbol? c with
  | some t => (t, cs)
  | none =>
    -- A newline is a blank too, so a run of newlines has to be tried first.
    if startsBlankLine (c :: cs) then
      (.blankLine (String.ofList (c :: cs.takeWhile (· == '\n'))), cs.dropWhile (· == '\n'))
    else if isBlank c then
      let run := spanSpace cs
      (.space (String.ofList (c :: run.1)), run.2)
    else
      (wordToken (c :: cs.takeWhile isWordChar), cs.dropWhile isWordChar)

theorem spanSpace_rest_length_le (cs : List Char) : (spanSpace cs).2.length ≤ cs.length := by
  induction cs with
  | nil => simp [spanSpace]
  | cons c cs ih =>
    unfold spanSpace
    split
    · exact Nat.le_succ_of_le ih
    · simp

theorem scan_rest_length_le (c : Char) (cs : List Char) : (scan c cs).2.length ≤ cs.length := by
  unfold scan
  split
  · exact Nat.le_refl _
  · split
    · exact (List.dropWhile_sublist _).length_le
    · split
      · exact spanSpace_rest_length_le cs
      · exact (List.dropWhile_sublist _).length_le

/-- The tokens of a list of characters, from left to right. -/
def lex : List Char → List Token
  | [] => []
  | c :: cs => (scan c cs).1 :: lex (scan c cs).2
termination_by cs => cs.length
decreasing_by exact Nat.lt_succ_of_le (scan_rest_length_le c cs)

/-- The tokens of a text. -/
def tokenize (s : String) : List Token :=
  lex (stripCarriageReturns s).toList

end TexMarkup
