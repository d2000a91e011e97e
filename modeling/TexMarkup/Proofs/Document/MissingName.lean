import TexMarkup.Proofs.Document.Limit
import TexMarkup.Proofs.Parser.BlankLine

/-!
# What stands in place of a name

The error of a missing name says what was found behind the backslash. A paragraph is read
without the tokens of the others, so a backslash at its end has nothing behind it, and the
error speaks of the end of the input even if a blank line and more paragraphs follow. In all
other places the error describes the token that stands there.

## Main definitions

* `FoundInstead`: what the error says of the tokens behind its backslash.

## Main results

* `parseDocument_eq_error_iff`: a text has an error just when it has a backslash that cannot
  be read, and the error is that of the first one.
* `missingName_iff_foundInstead`: the errors of missing names.
-/

namespace TexMarkup

variable {text found : String} {limit line : Nat} {before after : List Token} {e : ParseError}

/-! ## The first backslash that cannot be read -/

/-- A text cannot be read just when there is a backslash in it that cannot be read. Its error
is that of the first such backslash. -/
theorem parseDocument_eq_error_iff : parseDocument text limit = .error e ↔
    ∃ before after, tokenize text = before ++ .backslash :: after ∧
      Offends limit before after ∧ Readable limit (tokenize text) before.length ∧
      e = offence limit before after := by
  have located := parseDocument_located text limit
  constructor
  · intro failed
    rwa [failed] at located
  · rintro ⟨before, after, split, offends, readable, rfl⟩
    cases read : parseDocument text limit with
    | ok document =>
      rw [read] at located
      exact absurd offends (located.1 before after split (by
        rw [split, List.length_append, List.length_cons]; omega))
    | error e =>
      rw [read] at located
      obtain ⟨before', after', split', offends', readable', rfl⟩ := located
      -- Of two different backslashes the one in front could be read.
      rcases Nat.lt_trichotomy before'.length before.length with short | same | long
      · exact absurd offends' (readable before' after' split' short)
      · obtain ⟨rfl, rfl⟩ := eq_of_splits split split' same
        rfl
      · exact absurd offends (readable' before after split long)

/-! ## Missing names -/

/-- What the error of a missing name says of the tokens behind its backslash. -/
inductive FoundInstead : List Token → String → Prop where
  | endOfText : FoundInstead [] "end of input"
  /-- The paragraph ends in front of the blank line, and with it all that is looked at. -/
  | endOfParagraph (s : String) (rest : List Token) :
    FoundInstead (.blankLine s :: rest) "end of input"
  | token {t : Token} (rest : List Token) : t.isBlankLine = false → (∀ name, t ≠ .word name) →
    FoundInstead (t :: rest) t.describe

theorem FoundInstead.noName (h : FoundInstead after found) (name : String) (rest : List Token) :
    after ≠ .word name :: rest := by
  rintro rfl
  cases h with
  | token _ _ noWord => exact noWord name rfl

/-- Something is found behind every backslash that has no name behind it. -/
theorem exists_foundInstead (noName : ∀ name rest, after ≠ .word name :: rest) :
    ∃ found, FoundInstead after found := by
  rcases after with _ | ⟨t, rest⟩
  · exact ⟨_, .endOfText⟩
  · have noWord : ∀ name, t ≠ .word name := fun name same => noName name rest (by rw [same])
    cases t with
    | blankLine s => exact ⟨_, .endOfParagraph s rest⟩
    | _ => exact ⟨_, .token rest rfl noWord⟩

theorem FoundInstead.offence_eq (h : FoundInstead after found) :
    offence limit before after = .missingCommandName (1 + newlines before) found := by
  cases h with
  | endOfText => rfl
  | endOfParagraph s rest => rfl
  | @token t rest noBlankLine noWord =>
    cases t with
    | blankLine s => exact absurd noBlankLine.symm Bool.false_ne_true
    | word name => exact absurd rfl (noWord name)
    | _ => rfl

/-- The error of a backslash is that of a missing name just when something else than a name is
found behind it. -/
theorem offence_eq_missingCommandName_iff :
    offence limit before after = .missingCommandName line found ↔
      line = 1 + newlines before ∧ FoundInstead after found := by
  constructor
  · intro same
    have noName : ∀ name rest, after ≠ .word name :: rest := by
      rintro name rest rfl
      cases same
    obtain ⟨found', h⟩ := exists_foundInstead noName
    rw [h.offence_eq, ParseError.missingCommandName.injEq] at same
    exact ⟨same.1.symm, same.2 ▸ h⟩
  · rintro ⟨rfl, h⟩
    exact h.offence_eq

/-- Whether the end of the input was found cannot be told from the error alone. -/
theorem FoundInstead.eq_endOfInput_iff (h : FoundInstead after found) :
    found = "end of input" ↔ ∀ t ∈ after.head?, t.isBlankLine = true := by
  cases h with
  | endOfText => simp
  | endOfParagraph s rest => simp [Token.isBlankLine]
  | @token t rest noBlankLine _ => simp [t.describe_ne_endOfInput, noBlankLine]

/-- A text has the error of a missing name just when a backslash has no name behind it and all
those in front of it can be read. The error stands on the line of the backslash and describes
the token behind it. The one exception is a blank line there: as after the last token of the
text, the error says that the input has ended. -/
theorem missingName_iff_foundInstead (text : String) (limit line : Nat) (found : String) :
    parseDocument text limit = .error (.missingCommandName line found) ↔
      ∃ before after, tokenize text = before ++ .backslash :: after ∧
        Readable limit (tokenize text) before.length ∧ line = lineAt text (position before) ∧
        FoundInstead after found ∧
        (found = "end of input" ↔ ∀ t ∈ after.head?, t.isBlankLine = true) := by
  rw [parseDocument_eq_error_iff]
  refine exists₂_congr fun before after => and_congr_right fun split => ?_
  rw [lineAt_position split, eq_comm (a := ParseError.missingCommandName line found),
    offence_eq_missingCommandName_iff]
  constructor
  · rintro ⟨-, readable, same, h⟩
    exact ⟨readable, same, h, h.eq_endOfInput_iff⟩
  · rintro ⟨readable, same, h, -⟩
    exact ⟨.inl h.noName, readable, same, h⟩

/-- At the end of a paragraph the error says that the input has ended, though a blank line
stands behind the only backslash. A block of the same tokens finds the blank line. -/
theorem missingName_before_blankLine :
    let text := "\\\n\nx"
    parseDocument text = .error (.missingCommandName 1 "end of input") ∧
      (∀ before after, tokenize text = before ++ .backslash :: after →
        after.head?.map Token.describe = some "a blank line") ∧
      Reading.toExcept (Parser.block { maxDepth := defaultMaxDepth } (tokenize text)) =
        .error (.missingCommandName 1 "a blank line") := by
  intro text
  have tokens : tokenize text = [.backslash, .blankLine "\n\n", .word "x"] := by decide +kernel
  refine ⟨by decide +kernel, fun before after split => ?_, by decide +kernel⟩
  rw [tokens] at split
  rcases before with _ | ⟨t, before⟩
  · obtain ⟨-, rfl⟩ := List.cons_eq_cons.mp split
    rfl
  · -- There is no other backslash.
    have mem : Token.backslash ∈ [Token.blankLine "\n\n", .word "x"] := by
      rw [(List.cons_eq_cons.mp split).2]
      simp
    exact absurd mem (by decide)

end TexMarkup
