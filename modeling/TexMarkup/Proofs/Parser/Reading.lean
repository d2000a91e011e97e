import TexMarkup.Parser

/-!
# How readings unfold

The steps of a parser return what is left together with the reason why it is
shorter. Here that reason is forgotten, and every reading is described by what it
does with the first tokens: one equation for each kind of token, and one
induction principle along the nesting of commands and argument lists.

## Main definitions

* `Reading.map`: a reading with another value.
* `Parser.arguments`: an argument list, without the reason why reading ends.
* `Parser.ReadingInvariant`: a property that passes from the readings inside a
  command or an argument list to the whole.

## Main results

* `Parser.ReadingInvariant.command`, `Parser.ReadingInvariant.arguments`: an
  invariant holds of every reading.
* `Parser.paragraph_induction`, `Parser.nodes_induction`: induction along the reading of a
  paragraph up to a brace and of a whole one.
* `Parser.readingInvariant_keepsNesting`: a reading that succeeds ends at the
  depth at which it began.
-/

namespace TexMarkup

section Map

variable {α β : Type}

/-- Whether two readings are equal. -/
instance Reading.decEq [DecidableEq α] : DecidableEq (Reading α)
  | .ok a p, .ok b q =>
    decidable_of_iff (a = b ∧ p = q) (EStateM.Result.ok.injEq a p b q).to_iff.symm
  | .error e p, .error e' q =>
    decidable_of_iff (e = e' ∧ p = q) (EStateM.Result.error.injEq e p e' q).to_iff.symm
  | .ok _ _, .error _ _ => isFalse nofun
  | .error _ _, .ok _ _ => isFalse nofun

/-- A reading with its value replaced by a function of it. -/
def Reading.map (f : α → β) : Reading α → Reading β
  | .ok a p => .ok (f a) p
  | .error e p => .error e p

@[simp] theorem Reading.map_ok (f : α → β) (a : α) (p : Parser) :
    Reading.map f (.ok a p) = .ok (f a) p := rfl

@[simp] theorem Reading.map_error (f : α → β) (e : ParseError) (p : Parser) :
    Reading.map f (.error e p) = .error e p := rfl

/-- A mapped reading has a value only where the reading has one. -/
theorem Reading.map_eq_ok {f : α → β} {result : Reading α} {b : β} {p : Parser} :
    Reading.map f result = .ok b p ↔ ∃ a, result = .ok a p ∧ f a = b := by
  constructor
  · intro ok
    cases result with
    | error e q => cases ok
    | ok a q =>
      cases ok
      exact ⟨a, rfl, rfl⟩
  · rintro ⟨a, rfl, rfl⟩
    rfl

end Map

/-- The tokens that an argument list keeps as text. -/
def Token.isArgumentText : Token → Bool
  | .backslash | .rightBrace | .blankLine _ | .space _ => false
  | _ => true

/-- Inside of a list every token is text that neither ends the list nor stands for anything else.
-/
theorem Token.isArgumentText_of_ne {t : Token} (noBlankLine : ∀ s, t ≠ .blankLine s)
    (noBackslash : t ≠ .backslash) (noSpace : ∀ s, t ≠ .space s) (noBrace : t ≠ .rightBrace) :
    t.isArgumentText = true := by
  cases t with
  | blankLine s => exact absurd rfl (noBlankLine s)
  | backslash => exact absurd rfl noBackslash
  | space s => exact absurd rfl (noSpace s)
  | rightBrace => exact absurd rfl noBrace
  | _ => rfl

theorem Token.isBlankLine_of_isArgumentText {t : Token} (isText : t.isArgumentText = true) :
    t.isBlankLine = false := by
  cases t with
  | blankLine s => cases isText
  | _ => rfl

/-- The tokens at which a paragraph ends, unless they stand in an argument list. -/
def Token.stopsParagraph : Token → Bool
  | .leftBrace | .rightBrace | .blankLine _ => true
  | _ => false

namespace Parser

variable {p : Parser} {name : String} {line : Nat} {ts rest : List Token} {t : Token}

/-- Reads the arguments of a command up to the closing brace or up to the end of
the paragraph, and returns the tokens that are left. -/
def arguments (p : Parser) (name : String) (line : Nat) (ts : List Token) :
    Reading (List Node × List Token) :=
  Reading.map Subtype.val (p.argumentsStep name line ts)

private theorem command_eq_map (p : Parser) (ts : List Token) :
    p.command ts = Reading.map Subtype.val (p.commandStep ts) := by
  rw [command]
  cases p.commandStep ts <;> rfl

/-- A node in front of what has been read. -/
def before (node : Node) (read : List Node × List Token) : List Node × List Token :=
  (node :: read.1, read.2)

/-- The reading of a command whose argument list has been read. -/
def asCommand (name : String) : Reading (List Node × List Token) → Reading (Node × List Token)
  | .ok read q => .ok (.command name read.1, read.2) q.leave
  | .error e q => .error e q.leave

/-! ## Commands -/

/-- Without a backslash there is no command. -/
theorem command_of_head_ne (found : ∀ rest, ts ≠ .backslash :: rest) :
    p.command ts = .error (p.missingName ts) p := by
  rw [command_eq_map, commandStep]
  · rfl
  · exact fun _ _ same => found _ same
  · exact fun _ same => found _ same

/-- A backslash without a word behind it is an error on its line. -/
theorem command_of_name_missing (found : ∀ name rest, ts ≠ .word name :: rest) :
    p.command (.backslash :: ts) = .error (p.missingName ts) p := by
  rw [command_eq_map, commandStep]
  · rfl
  · exact fun _ _ same => found _ _ same

/-- The depth is checked as soon as the name is known. -/
theorem command_of_tooDeep (deep : p.maxDepth < p.depth + 1) :
    p.command (.backslash :: .word name :: ts) =
      .error (.nestingTooDeep p.line p.maxDepth) p.enter := by
  rw [command_eq_map, commandStep.eq_def]
  simp only [gt_iff_lt, if_pos deep, Reading.map_error]

/-- A brace right behind the name opens the argument list, one level deeper. -/
theorem command_leftBrace (fits : ¬ p.maxDepth < p.depth + 1) :
    p.command (.backslash :: .word name :: .leftBrace :: ts) =
      asCommand name (p.enter.arguments name p.line ts) := by
  rw [command_eq_map, commandStep, arguments]
  simp only [gt_iff_lt, if_neg fits]
  cases p.enter.argumentsStep name p.line ts <;> rfl

/-- One run of blanks behind the name belongs to the command. -/
theorem command_space (fits : ¬ p.maxDepth < p.depth + 1) (s : String) :
    p.command (.backslash :: .word name :: .space s :: ts) =
      .ok (.command name [], ts) (p.advance (.space s)) := by
  rw [command_eq_map, commandStep]
  simp only [gt_iff_lt, if_neg fits, Reading.map_ok]

/-- Every other token is left for what comes after the command. -/
theorem command_bare (fits : ¬ p.maxDepth < p.depth + 1)
    (noBrace : ∀ rest, ts ≠ .leftBrace :: rest) (noSpace : ∀ s rest, ts ≠ .space s :: rest) :
    p.command (.backslash :: .word name :: ts) = .ok (.command name [], ts) p := by
  rw [command_eq_map, commandStep]
  · simp only [gt_iff_lt, if_neg fits, Reading.map_ok]
  · exact fun _ same => noBrace _ same
  · exact fun _ _ same => noSpace _ _ same

/-! ## Argument lists -/

/-- The end of the tokens closes the list implicitly. -/
theorem arguments_nil : p.arguments name line [] = .ok ([], []) (p.closeImplicitly name line) := by
  rw [arguments, argumentsStep, Reading.map_ok]

/-- So does a blank line, which is left for the paragraph. -/
theorem arguments_blankLine (s : String) :
    p.arguments name line (.blankLine s :: ts) =
      .ok ([], .blankLine s :: ts) (p.closeImplicitly name line) := by
  rw [arguments, argumentsStep, Reading.map_ok]

/-- A closing brace ends the list. -/
theorem arguments_rightBrace : p.arguments name line (.rightBrace :: ts) = .ok ([], ts) p := by
  rw [arguments, argumentsStep, Reading.map_ok]

/-- A command in the list is read with the same parser, and then the list goes on. -/
theorem arguments_backslash :
    p.arguments name line (.backslash :: ts) =
      match p.command (.backslash :: ts) with
      | .ok read q => Reading.map (before read.1) (q.arguments name line read.2)
      | .error e q => .error e q := by
  rw [arguments, argumentsStep, command_eq_map]
  cases p.commandStep (.backslash :: ts) with
  | error e q => rfl
  | ok read q =>
    obtain ⟨⟨node, after⟩, shorter⟩ := read
    simp only [Reading.map_ok, arguments]
    cases q.argumentsStep name line after <;> rfl

theorem arguments_space (s : String) :
    p.arguments name line (.space s :: ts) =
      Reading.map (before .space) ((p.advance (.space s)).arguments name line ts) := by
  rw [arguments, argumentsStep, arguments]
  cases (p.advance (.space s)).argumentsStep name line ts <;> rfl

theorem arguments_text (isText : t.isArgumentText = true) :
    p.arguments name line (t :: ts) =
      Reading.map (before (.text t.text)) (p.arguments name line ts) := by
  rw [arguments, argumentsStep, arguments]
  · cases p.argumentsStep name line ts <;> rfl
  all_goals intros; subst_vars; exact absurd isText Bool.false_ne_true

/-! ## Paragraphs up to a brace -/

private theorem paragraph_eq_map (p : Parser) (ts : List Token) :
    p.paragraph ts = Reading.map Subtype.val (p.paragraphStep ts) := by
  rw [paragraph]
  cases p.paragraphStep ts <;> rfl

theorem paragraph_nil : p.paragraph [] = .ok ([], []) p := by
  rw [paragraph_eq_map, paragraphStep, Reading.map_ok]

theorem paragraph_backslash :
    p.paragraph (.backslash :: ts) =
      match p.command (.backslash :: ts) with
      | .ok read q => Reading.map (before read.1) (q.paragraph read.2)
      | .error e q => .error e q := by
  rw [paragraph_eq_map, paragraphStep, command_eq_map]
  cases p.commandStep (.backslash :: ts) with
  | error e q => rfl
  | ok read q =>
    obtain ⟨⟨node, after⟩, shorter⟩ := read
    simp only [Reading.map_ok, paragraph_eq_map]
    cases q.paragraphStep after <;> rfl

theorem paragraph_space (s : String) :
    p.paragraph (.space s :: ts) =
      Reading.map (before .space) ((p.advance (.space s)).paragraph ts) := by
  rw [paragraph_eq_map, paragraphStep, paragraph_eq_map]
  cases (p.advance (.space s)).paragraphStep ts <;> rfl

theorem paragraph_text (like : t.isTextLike = true) :
    p.paragraph (t :: ts) = Reading.map (before (.text t.text)) (p.paragraph ts) := by
  rw [paragraph_eq_map, paragraphStep, if_pos like, paragraph_eq_map]
  · cases p.paragraphStep ts <;> rfl
  all_goals intros; subst_vars; cases like

/-- A brace or a blank line is left to whoever has asked for the paragraph. -/
theorem paragraph_of_stops (stops : t.stopsParagraph = true) :
    p.paragraph (t :: ts) = .ok ([], t :: ts) p := by
  cases t with
  | leftBrace | rightBrace | blankLine s =>
    rw [paragraph_eq_map, paragraphStep, if_neg (by simp [Token.isTextLike]), Reading.map_ok]
    all_goals simp
  | _ => cases stops

/-! ## Whole paragraphs

Reading every token goes on after a stray brace, so the readings up to a brace
that it is made of cannot be seen from outside. -/

/-- Outside of all commands a token that stops a paragraph is put back as a node, and the reading
goes on behind it. -/
theorem nodes_eq (p : Parser) (ts : List Token) :
    p.nodes ts =
      match p.paragraph ts with
      | .error e q => .error e q
      | .ok (read, []) q => .ok read q
      | .ok (read, stray :: rest) q =>
        let node := if stray.isBlankLine then Node.space else .text stray.text
        Reading.map (read ++ node :: ·) ((q.advance stray).nodes rest) := by
  rw [nodes, paragraph_eq_map]
  cases p.paragraphStep ts with
  | error e q => rfl
  | ok read q =>
    obtain ⟨⟨read, after⟩, shorter⟩ := read
    cases after with
    | nil => rfl
    | cons stray rest =>
      simp only [Reading.map_ok]
      cases (q.advance stray).nodes rest <;> rfl

/-- What comes in front of a reading up to a brace comes in front of the whole
reading. -/
private theorem nodes_of_paragraph_map {p' : Parser} {ts' : List Token} {node : Node}
    (stepped : p.paragraph ts = Reading.map (before node) (p'.paragraph ts')) :
    p.nodes ts = Reading.map (node :: ·) (p'.nodes ts') := by
  rw [nodes_eq p ts, nodes_eq p' ts', stepped]
  cases p'.paragraph ts' with
  | error e q => rfl
  | ok read q =>
    obtain ⟨read, after⟩ := read
    cases after with
    | nil => rfl
    | cons stray rest =>
      simp only [Reading.map_ok, before]
      cases (q.advance stray).nodes rest <;> rfl

theorem nodes_nil : p.nodes [] = .ok [] p := by
  rw [nodes_eq, paragraph_nil]

/-- A command is read and then the nodes behind it. -/
theorem nodes_backslash :
    p.nodes (.backslash :: ts) =
      match p.command (.backslash :: ts) with
      | .ok read q => Reading.map (read.1 :: ·) (q.nodes read.2)
      | .error e q => .error e q := by
  have stepped : p.paragraph (.backslash :: ts) = _ := paragraph_backslash
  cases commanded : p.command (.backslash :: ts) with
  | ok read q =>
    rw [commanded] at stepped
    exact nodes_of_paragraph_map stepped
  | error e q => rw [nodes_eq, stepped, commanded]

theorem nodes_space (s : String) :
    p.nodes (.space s :: ts) = Reading.map (.space :: ·) ((p.advance (.space s)).nodes ts) :=
  nodes_of_paragraph_map (paragraph_space s)

/-- A blank line inside of a group would be a space. -/
theorem nodes_blankLine (s : String) :
    p.nodes (.blankLine s :: ts) =
      Reading.map (.space :: ·) ((p.advance (.blankLine s)).nodes ts) := by
  rw [nodes_eq, paragraph_of_stops rfl]
  rfl

/-- Outside of argument lists every other token is text, the braces included. -/
theorem nodes_text (isText : t = .rightBrace ∨ t.isArgumentText = true) :
    p.nodes (t :: ts) = Reading.map (.text t.text :: ·) (p.nodes ts) := by
  -- A brace ends the paragraph and is put back by `nodes` itself, so its equation does
  -- not come from that of the paragraph.
  by_cases like : t.isTextLike = true
  · exact nodes_of_paragraph_map (paragraph_text like)
  · have isBrace : t = .leftBrace ∨ t = .rightBrace := by
      cases t <;> simp_all [Token.isArgumentText, Token.isTextLike]
    rcases isBrace with rfl | rfl
    · rw [nodes_eq, paragraph_of_stops rfl]
      rfl
    · rw [nodes_eq, paragraph_of_stops rfl]
      rfl

/-! ## Induction along a reading -/

/-- A command takes at least its backslash. -/
theorem command_rest_length_lt {node : Node} {q : Parser}
    (read : p.command ts = .ok (node, rest) q) : rest.length < ts.length := by
  rw [command_eq_map] at read
  cases step : p.commandStep ts with
  | ok result q' =>
    rw [step, Reading.map_ok, EStateM.Result.ok.injEq] at read
    simpa only [read.1] using result.2
  | error e q' => rw [step] at read; cases read

/-- A property of readings that holds of those that end at once, and passes from
the readings inside a command or an argument list to the whole. -/
structure ReadingInvariant
    (onCommand : Parser → List Token → Reading (Node × List Token) → Prop)
    (onArguments : Parser → String → Nat → List Token → Reading (List Node × List Token) → Prop) :
    Prop where
  /-- Something else than a command begins here. -/
  noBackslash : ∀ p ts, (∀ rest, ts ≠ .backslash :: rest) →
    onCommand p ts (.error (p.missingName ts) p)
  /-- No name follows the backslash. -/
  noName : ∀ p ts, (∀ name rest, ts ≠ .word name :: rest) →
    onCommand p (.backslash :: ts) (.error (p.missingName ts) p)
  /-- The command lies too deep. -/
  tooDeep : ∀ p name ts, p.maxDepth < p.depth + 1 →
    onCommand p (.backslash :: .word name :: ts)
      (.error (.nestingTooDeep p.line p.maxDepth) p.enter)
  /-- The command has an argument list. -/
  braces : ∀ p name ts result, ¬ p.maxDepth < p.depth + 1 →
    onArguments p.enter name p.line ts result →
    onCommand p (.backslash :: .word name :: .leftBrace :: ts) (asCommand name result)
  /-- A run of blanks sets the command off. -/
  delimited : ∀ p name s ts, ¬ p.maxDepth < p.depth + 1 →
    onCommand p (.backslash :: .word name :: .space s :: ts)
      (.ok (.command name [], ts) (p.advance (.space s)))
  /-- The command ends with its name. -/
  bare : ∀ p name ts, ¬ p.maxDepth < p.depth + 1 → (∀ rest, ts ≠ .leftBrace :: rest) →
    (∀ s rest, ts ≠ .space s :: rest) →
    onCommand p (.backslash :: .word name :: ts) (.ok (.command name [], ts) p)
  /-- The tokens end inside the list. -/
  ended : ∀ p name line,
    onArguments p name line [] (.ok ([], []) (p.closeImplicitly name line))
  /-- The paragraph ends inside the list. -/
  interrupted : ∀ p name line s ts,
    onArguments p name line (.blankLine s :: ts)
      (.ok ([], .blankLine s :: ts) (p.closeImplicitly name line))
  /-- The list is closed. -/
  closed : ∀ p name line ts, onArguments p name line (.rightBrace :: ts) (.ok ([], ts) p)
  /-- The list goes on after a command. -/
  nested : ∀ p name line ts node rest q result,
    p.command (.backslash :: ts) = .ok (node, rest) q →
    onCommand p (.backslash :: ts) (.ok (node, rest) q) → onArguments q name line rest result →
    onArguments p name line (.backslash :: ts) (Reading.map (before node) result)
  /-- A command in the list cannot be read. -/
  refused : ∀ p name line ts e q, onCommand p (.backslash :: ts) (.error e q) →
    onArguments p name line (.backslash :: ts) (.error e q)
  /-- The list goes on after a run of blanks. -/
  blank : ∀ p name line s ts result,
    onArguments (p.advance (.space s)) name line ts result →
    onArguments p name line (.space s :: ts) (Reading.map (before .space) result)
  /-- The list goes on after a text. -/
  text : ∀ p name line t ts result, t.isArgumentText = true →
    onArguments p name line ts result →
    onArguments p name line (t :: ts) (Reading.map (before (.text t.text)) result)

namespace ReadingInvariant

variable {onCommand : Parser → List Token → Reading (Node × List Token) → Prop}
  {onArguments : Parser → String → Nat → List Token → Reading (List Node × List Token) → Prop}

private theorem command_of_shorter (h : ReadingInvariant onCommand onArguments)
    (shorter : ∀ p name line ts', ts'.length < ts.length →
      onArguments p name line ts' (p.arguments name line ts')) :
    onCommand p ts (p.command ts) := by
  -- The equations of `command` tell four openings apart: no backslash, no name, too
  -- deep, and a command that can be read.
  by_cases starts : ∃ rest, ts = .backslash :: rest
  · obtain ⟨rest, rfl⟩ := starts
    by_cases named : ∃ name rest', rest = .word name :: rest'
    · obtain ⟨name, rest', rfl⟩ := named
      by_cases deep : p.maxDepth < p.depth + 1
      · rw [command_of_tooDeep deep]
        exact h.tooDeep p name rest' deep
      · rcases rest' with _ | ⟨t, rest'⟩
        · rw [command_bare deep (by simp) (by simp)]
          exact h.bare p name [] deep (by simp) (by simp)
        · cases t with
          | leftBrace =>
            rw [command_leftBrace deep]
            exact h.braces p name rest' _ deep (shorter _ _ _ _ (by simp; omega))
          | space s =>
            rw [command_space deep]
            exact h.delimited p name s rest' deep
          | _ =>
            rw [command_bare deep (by simp) (by simp)]
            exact h.bare p name _ deep (by simp) (by simp)
    · have noWord : ∀ name rest', rest ≠ .word name :: rest' :=
        fun name rest' same => named ⟨name, rest', same⟩
      rw [command_of_name_missing noWord]
      exact h.noName p rest noWord
  · have noStart : ∀ rest, ts ≠ .backslash :: rest := fun rest same => starts ⟨rest, same⟩
    rw [command_of_head_ne noStart]
    exact h.noBackslash p ts noStart

/-- An invariant holds of every reading of an argument list. -/
theorem arguments (h : ReadingInvariant onCommand onArguments) (p : Parser) (name : String)
    (line : Nat) (ts : List Token) : onArguments p name line ts (p.arguments name line ts) := by
  -- A command in front of the list is read before the rest, which is shorter than it.
  induction len : ts.length using Nat.strongRecOn generalizing p name line ts with
  | ind n ih =>
    subst len
    rcases ts with _ | ⟨t, ts⟩
    · rw [arguments_nil]
      exact h.ended p name line
    · have listed (p' : Parser) := ih ts.length (Nat.lt_succ_self _) p' name line ts rfl
      cases t with
      | backslash =>
        rw [arguments_backslash]
        have commanded : onCommand p (.backslash :: ts) (p.command (.backslash :: ts)) :=
          h.command_of_shorter fun p' name' line' ts' shorter =>
            ih ts'.length shorter p' name' line' ts' rfl
        cases step : p.command (.backslash :: ts) with
        | ok read q =>
          rw [step] at commanded
          exact h.nested p name line ts _ _ q _ step commanded
            (ih read.2.length (command_rest_length_lt step) q name line read.2 rfl)
        | error e q =>
          rw [step] at commanded
          exact h.refused p name line ts e q commanded
      | rightBrace =>
        rw [arguments_rightBrace]
        exact h.closed p name line ts
      | blankLine s =>
        rw [arguments_blankLine]
        exact h.interrupted p name line s ts
      | space s =>
        rw [arguments_space]
        exact h.blank p name line s ts _ (listed _)
      | _ =>
        rw [arguments_text rfl]
        exact h.text p name line _ ts _ rfl (listed _)

/-- An invariant holds of every reading of a command. -/
theorem command (h : ReadingInvariant onCommand onArguments) (p : Parser) (ts : List Token) :
    onCommand p ts (p.command ts) :=
  h.command_of_shorter fun p' name line ts' _ => h.arguments p' name line ts'

end ReadingInvariant

/-- Induction along the reading of a paragraph up to a brace, command by command. -/
theorem paragraph_induction {motive : Parser → List Token → Reading (List Node × List Token) → Prop}
    (nil : ∀ p, motive p [] (.ok ([], []) p))
    (stopped : ∀ p t ts, t.stopsParagraph = true → motive p (t :: ts) (.ok ([], t :: ts) p))
    (command : ∀ p ts node rest q result, p.command (.backslash :: ts) = .ok (node, rest) q →
      motive q rest result → motive p (.backslash :: ts) (Reading.map (before node) result))
    (refused : ∀ p ts e q, p.command (.backslash :: ts) = .error e q →
      motive p (.backslash :: ts) (.error e q))
    (space : ∀ p s ts result, motive (p.advance (.space s)) ts result →
      motive p (.space s :: ts) (Reading.map (before .space) result))
    (text : ∀ p t ts result, t.isTextLike = true → motive p ts result →
      motive p (t :: ts) (Reading.map (before (.text t.text)) result))
    (p : Parser) (ts : List Token) : motive p ts (p.paragraph ts) := by
  -- A command takes several tokens at once, so the induction is on the length.
  induction len : ts.length using Nat.strongRecOn generalizing p ts with
  | ind n ih =>
    subst len
    rcases ts with _ | ⟨t, ts⟩
    · rw [paragraph_nil]
      exact nil p
    · have after (p' : Parser) := ih ts.length (Nat.lt_succ_self _) p' ts rfl
      cases t with
      | backslash =>
        rw [paragraph_backslash]
        cases step : p.command (.backslash :: ts) with
        | ok read q =>
          exact command p ts _ _ q _ step
            (ih read.2.length (command_rest_length_lt step) q read.2 rfl)
        | error e q => exact refused p ts e q step
      | space s =>
        rw [paragraph_space]
        exact space p s ts _ (after _)
      | leftBrace | rightBrace | blankLine s =>
        rw [paragraph_of_stops rfl]
        exact stopped p _ ts rfl
      | _ =>
        rw [paragraph_text rfl]
        exact text p _ ts _ rfl (after _)

/-- Induction along the reading of a whole paragraph, command by command. -/
theorem nodes_induction {motive : Parser → List Token → Reading (List Node) → Prop}
    (nil : ∀ p, motive p [] (.ok [] p))
    (command : ∀ p ts node rest q result, p.command (.backslash :: ts) = .ok (node, rest) q →
      motive q rest result → motive p (.backslash :: ts) (Reading.map (node :: ·) result))
    (refused : ∀ p ts e q, p.command (.backslash :: ts) = .error e q →
      motive p (.backslash :: ts) (.error e q))
    (space : ∀ p s ts result, motive (p.advance (.space s)) ts result →
      motive p (.space s :: ts) (Reading.map (.space :: ·) result))
    (blankLine : ∀ p s ts result, motive (p.advance (.blankLine s)) ts result →
      motive p (.blankLine s :: ts) (Reading.map (.space :: ·) result))
    (text : ∀ p t ts result, t = .rightBrace ∨ t.isArgumentText = true → motive p ts result →
      motive p (t :: ts) (Reading.map (.text t.text :: ·) result))
    (p : Parser) (ts : List Token) : motive p ts (p.nodes ts) := by
  -- A command takes several tokens at once, so the induction is on the length.
  induction len : ts.length using Nat.strongRecOn generalizing p ts with
  | ind n ih =>
    subst len
    rcases ts with _ | ⟨t, ts⟩
    · rw [nodes_nil]
      exact nil p
    · have after (p' : Parser) := ih ts.length (Nat.lt_succ_self _) p' ts rfl
      cases t with
      | backslash =>
        rw [nodes_backslash]
        cases step : p.command (.backslash :: ts) with
        | ok read q =>
          exact command p ts _ _ q _ step
            (ih read.2.length (command_rest_length_lt step) q read.2 rfl)
        | error e q => exact refused p ts e q step
      | space s =>
        rw [nodes_space]
        exact space p s ts _ (after _)
      | blankLine s =>
        rw [nodes_blankLine]
        exact blankLine p s ts _ (after _)
      | rightBrace =>
        rw [nodes_text (.inl rfl)]
        exact text p _ ts _ (.inl rfl) (after _)
      | _ =>
        rw [nodes_text (.inr rfl)]
        exact text p _ ts _ (.inr rfl) (after _)

/-! ## What a successful reading leaves as it was -/

/-- Where a reading succeeds, it ends at the depth and under the limit at which it
began, and what it leaves is the end of what it was given. -/
def KeepsNesting {α : Type} (p : Parser) (ts : List Token) : Reading (α × List Token) → Prop
  | .ok read q => q.maxDepth = p.maxDepth ∧ q.depth = p.depth ∧ read.2 <:+ ts
  | .error _ _ => True

/-- One more node in front changes neither the depth nor where the reading ends. -/
theorem KeepsNesting.map_before {q : Parser} {node : Node}
    {result : Reading (List Node × List Token)} (h : KeepsNesting q rest result)
    (limit : q.maxDepth = p.maxDepth) (depth : q.depth = p.depth) (ends : rest <:+ ts) :
    KeepsNesting p ts (Reading.map (before node) result) := by
  cases result with
  | error e q' => trivial
  | ok read q' => exact ⟨h.1.trans limit, h.2.1.trans depth, h.2.2.trans ends⟩

/-- Readings leave the limit and the depth as they were, and a suffix of the tokens. -/
theorem readingInvariant_keepsNesting :
    ReadingInvariant KeepsNesting fun p _ _ ts => KeepsNesting p ts where
  noBackslash _ _ _ := trivial
  noName _ _ _ := trivial
  tooDeep _ _ _ _ := trivial
  braces p name ts result _ h := by
    cases result with
    | error e q => trivial
    | ok read q =>
      obtain ⟨limit, depth, ends⟩ := h
      refine ⟨limit, ?_, ends.trans ⟨[.backslash, .word name, .leftBrace], rfl⟩⟩
      simp only [leave, depth, enter, Nat.add_sub_cancel]
  delimited p name s ts _ := ⟨rfl, rfl, ⟨[.backslash, .word name, .space s], rfl⟩⟩
  bare p name ts _ _ _ := ⟨rfl, rfl, ⟨[.backslash, .word name], rfl⟩⟩
  ended _ _ _ := ⟨rfl, rfl, List.suffix_refl _⟩
  interrupted _ _ _ _ _ := ⟨rfl, rfl, List.suffix_refl _⟩
  closed _ _ _ ts := ⟨rfl, rfl, List.suffix_cons _ ts⟩
  nested _ _ _ _ _ _ _ _ _ command h := h.map_before command.1 command.2.1 command.2.2
  refused _ _ _ _ _ _ _ := trivial
  blank _ _ _ _ ts _ h := h.map_before rfl rfl (List.suffix_cons _ ts)
  text _ _ _ _ ts _ _ h := h.map_before rfl rfl (List.suffix_cons _ ts)

theorem command_keepsNesting {node : Node} {q : Parser}
    (read : p.command ts = .ok (node, rest) q) :
    q.maxDepth = p.maxDepth ∧ q.depth = p.depth ∧ rest <:+ ts := by
  have keeps := readingInvariant_keepsNesting.command p ts
  rwa [read] at keeps

end Parser

/-! ## Groups of tokens -/

section Groups

variable {group rest : List Token}

theorem splitParagraphs_ne_nil (ts : List Token) : splitParagraphs ts ≠ [] := by
  cases ts with
  | nil => exact List.cons_ne_nil _ _
  | cons t ts =>
    rw [splitParagraphs]
    split
    · exact List.cons_ne_nil _ _
    · split <;> exact List.cons_ne_nil _ _

/-- Tokens without blank lines are one group. -/
theorem splitParagraphs_of_noBlankLine (noBlankLine : ∀ t ∈ group, t.isBlankLine = false) :
    splitParagraphs group = [group] := by
  induction group with
  | nil => rfl
  | cons t group ih =>
    rw [splitParagraphs, ih fun t' mem => noBlankLine t' (List.mem_cons_of_mem _ mem)]
    simp only [noBlankLine t List.mem_cons_self, Bool.false_eq_true, if_false]

/-- A blank line ends the first group. -/
theorem splitParagraphs_append_blankLine (noBlankLine : ∀ t ∈ group, t.isBlankLine = false)
    (s : String) :
    splitParagraphs (group ++ .blankLine s :: rest) = group :: splitParagraphs rest := by
  induction group with
  | nil =>
    rw [List.nil_append, splitParagraphs]
    cases split : splitParagraphs rest with
    | nil => exact absurd split (splitParagraphs_ne_nil rest)
    | cons group groups => rfl
  | cons t group ih =>
    rw [List.cons_append, splitParagraphs,
      ih fun t' mem => noBlankLine t' (List.mem_cons_of_mem _ mem)]
    simp only [noBlankLine t List.mem_cons_self, Bool.false_eq_true, if_false]

/-- Induction from paragraph to paragraph, the last of which has no blank line
after it. -/
theorem paragraphs_induction {motive : List Token → Prop}
    (last : ∀ group, (∀ t ∈ group, t.isBlankLine = false) → motive group)
    (more : ∀ group s rest, (∀ t ∈ group, t.isBlankLine = false) → motive rest →
      motive (group ++ .blankLine s :: rest))
    (ts : List Token) : motive ts := by
  -- The tokens of the current paragraph are collected until a blank line ends it.
  suffices grown : ∀ group, (∀ t ∈ group, t.isBlankLine = false) → motive (group ++ ts) from
    grown [] (by simp)
  induction ts with
  | nil =>
    intro group noBlankLine
    rw [List.append_nil]
    exact last group noBlankLine
  | cons t ts ih =>
    intro group noBlankLine
    cases blank : t.isBlankLine with
    | true =>
      cases t with
      | blankLine s => exact more group s ts noBlankLine (ih [] (by simp))
      | _ => exact absurd blank Bool.false_ne_true
    | false =>
      rw [List.append_cons]
      refine ih (group ++ [t]) fun t' mem => ?_
      rcases List.mem_append.mp mem with mem | mem
      · exact noBlankLine t' mem
      · rw [List.mem_singleton.mp mem, blank]

end Groups

end TexMarkup
