import TexMarkup.Proofs.Parser.Lines

/-!
# Readings that begin further down

A parser that has read something already goes on as a fresh one would that allows as
many commands as are left to it. Only the lines of what it reports are counted from
where it began, its limit is reported instead of what was left of it, and the argument
lists closed before stay in front.

## Main definitions

* `Place`: where in a longer text a reading begins.
* `Place.parser`, `Place.error`, `Place.reading`: parsers, errors and readings moved to
  a place.
* `Parser.DepthAfter`: what becomes of the depth.

## Main results

* `Place.command`, `Place.nodes`, `Place.paragraphs`: a reading that begins at a place is
  the reading of a fresh parser moved there.
-/

namespace TexMarkup

/-- Where in a longer text a reading begins. -/
structure Place where
  /-- The limit of the parser. -/
  maxDepth : Nat
  /-- How many commands it is in. -/
  depth : Nat
  /-- How many lines it has passed. -/
  lines : Nat
  /-- The argument lists that it has closed. -/
  closes : List ImplicitClose

namespace Place

variable {α β : Type} {place : Place} {p q : Parser} {ts : List Token}

/-- The parser that is as far from the place as the given one is from the beginning. -/
def parser (place : Place) (p : Parser) : Parser where
  maxDepth := place.maxDepth
  depth := place.depth + p.depth
  line := place.lines + p.line
  implicitCloses :=
    place.closes ++
      p.implicitCloses.map fun close => { close with line := place.lines + close.line }

/-- The error with its line counted from the beginning of the longer text. -/
def error (place : Place) : ParseError → ParseError
  | .missingCommandName line found => .missingCommandName (place.lines + line) found
  | .nestingTooDeep line _ => .nestingTooDeep (place.lines + line) place.maxDepth

/-- The reading moved to the place. -/
def reading (place : Place) : Reading α → Reading α
  | .ok x p => .ok x (place.parser p)
  | .error e p => .error (place.error e) (place.parser p)

/-- The parser allows as many commands as are left at the place. -/
def Allows (place : Place) (p : Parser) : Prop :=
  p.maxDepth = place.maxDepth - place.depth

theorem reading_map (f : α → β) (result : Reading α) :
    place.reading (Reading.map f result) = Reading.map f (place.reading result) := by
  cases result <;> rfl

theorem parser_advance (t : Token) : place.parser (p.advance t) = (place.parser p).advance t := by
  simp only [parser, Parser.advance, Nat.add_assoc]

theorem parser_closeImplicitly (name : String) (line : Nat) :
    place.parser (p.closeImplicitly name line) =
      (place.parser p).closeImplicitly name (place.lines + line) := by
  simp only [parser, Parser.closeImplicitly, List.map_append, List.map_cons, List.map_nil,
    List.append_assoc]

theorem parser_leave (inside : 0 < p.depth) : place.parser p.leave = (place.parser p).leave := by
  simp only [parser, Parser.leave, Nat.add_sub_assoc inside]

theorem Allows.tooDeep_iff (allows : place.Allows p) :
    (place.parser p).maxDepth < (place.parser p).depth + 1 ↔ p.maxDepth < p.depth + 1 := by
  simp only [Allows] at allows
  simp only [parser]
  omega

end Place

/-! ## The depth after a reading -/

namespace Parser

variable {α : Type} {p : Parser} {ts rest : List Token}

/-- A reading that fails because of nesting leaves the depth one higher than it was,
and every other reading leaves it as it was. -/
def DepthAfter (p : Parser) : Reading α → Prop
  | .ok _ q | .error (.missingCommandName _ _) q => q.depth = p.depth
  | .error (.nestingTooDeep _ _) q => q.depth = p.depth + 1

theorem DepthAfter.of_depth_eq {q : Parser} {result : Reading α} (h : DepthAfter q result)
    (same : q.depth = p.depth) : DepthAfter p result := by
  simp only [DepthAfter, same] at h ⊢
  exact h

theorem DepthAfter.map {β : Type} {f : α → β} {result : Reading α} (h : DepthAfter p result) :
    DepthAfter p (Reading.map f result) := by
  cases result with
  | ok x q => exact h
  | error e q => cases e <;> exact h

/-- Inside of a command no reading leaves the command. -/
theorem DepthAfter.asCommand {result : Reading (List Node × List Token)}
    (h : DepthAfter p.enter result) (name : String) : DepthAfter p (asCommand name result) := by
  cases result with
  | ok read q =>
    simp only [DepthAfter, enter] at h
    simp only [DepthAfter, Parser.asCommand, leave, h, Nat.add_sub_cancel]
  | error e q =>
    cases e <;> simp only [DepthAfter, enter] at h <;>
      simp only [DepthAfter, Parser.asCommand, leave, h, Nat.add_sub_cancel]

end Parser

/-! ## Readings at a place -/

namespace Place

variable {place : Place} {p : Parser}

/-- The reading leaves the depth as every reading does, and it is moved to the place.
The depth matters because a parser cannot leave the commands that the place is in. -/
def Moves {α : Type} (place : Place) (p : Parser) (result moved : Reading α) : Prop :=
  p.DepthAfter result ∧ (place.Allows p → moved = place.reading result)

theorem reading_asCommand {result : Reading (List Node × List Token)}
    (inside : p.enter.DepthAfter result) (name : String) :
    place.reading (Parser.asCommand name result) =
      Parser.asCommand name (place.reading result) := by
  have left (q : Parser) (deeper : p.depth < q.depth) :
      place.parser q.leave = (place.parser q).leave :=
    parser_leave (Nat.zero_lt_of_lt deeper)
  cases result with
  | ok read q =>
    have deeper : q.depth = p.depth + 1 := inside
    exact congrArg (EStateM.Result.ok _) (left q (by omega))
  | error e q =>
    have deeper : p.depth + 1 ≤ q.depth := by
      cases e with
      | missingCommandName line found => exact Nat.le_of_eq (Eq.symm inside)
      | nestingTooDeep line limit => exact Nat.le_of_succ_le (Nat.le_of_eq (Eq.symm inside))
    exact congrArg (EStateM.Result.error _) (left q deeper)

/-- Every reading inside of a command is moved to the place, whatever it meets. -/
theorem readingInvariant_moves (place : Place) :
    Parser.ReadingInvariant
      (fun p ts result => place.Moves p result ((place.parser p).command ts))
      (fun p name line ts result =>
        place.Moves p result ((place.parser p).arguments name (place.lines + line) ts)) where
  noBackslash p ts noStart := ⟨rfl, fun _ => Parser.command_of_head_ne noStart⟩
  noName p ts noWord := ⟨rfl, fun _ => Parser.command_of_name_missing noWord⟩
  tooDeep p name ts deep :=
    ⟨rfl, fun allows => Parser.command_of_tooDeep (allows.tooDeep_iff.mpr deep)⟩
  -- Leaving a command takes one level back, which has to be one of the reading's own.
  braces p name ts result fits h := by
    refine ⟨h.1.asCommand name, fun allows => ?_⟩
    rw [Parser.command_leftBrace (mt allows.tooDeep_iff.mp fits), reading_asCommand h.1]
    exact congrArg (Parser.asCommand name) (h.2 allows)
  delimited p name s ts fits := by
    refine ⟨rfl, fun allows => ?_⟩
    rw [Parser.command_space (mt allows.tooDeep_iff.mp fits), reading, parser_advance]
  bare p name ts fits noBrace noSpace :=
    ⟨rfl, fun allows => Parser.command_bare (mt allows.tooDeep_iff.mp fits) noBrace noSpace⟩
  ended p name line := by
    refine ⟨rfl, fun _ => ?_⟩
    rw [Parser.arguments_nil, reading, parser_closeImplicitly]
  interrupted p name line s ts := by
    refine ⟨rfl, fun _ => ?_⟩
    rw [Parser.arguments_blankLine, reading, parser_closeImplicitly]
  closed p name line ts := ⟨rfl, fun _ => Parser.arguments_rightBrace⟩
  nested p name line ts node rest q result read command h := by
    refine ⟨(h.1.of_depth_eq command.1).map, fun allows => ?_⟩
    have kept : place.Allows q := (Parser.command_keepsNesting read).1.trans allows
    rw [Parser.arguments_backslash, command.2 allows, reading_map, ← h.2 kept]
    rfl
  refused p name line ts e q command := by
    refine ⟨by cases e <;> exact command.1, fun allows => ?_⟩
    rw [Parser.arguments_backslash, command.2 allows]
    rfl
  blank p name line s ts result h := by
    refine ⟨(h.1.of_depth_eq rfl).map, fun allows => ?_⟩
    rw [Parser.arguments_space, reading_map, ← h.2 allows, parser_advance]
  text p name line t ts result isText h := by
    refine ⟨h.1.map, fun allows => ?_⟩
    rw [Parser.arguments_text isText, reading_map, ← h.2 allows]

/-- A command is read at the place as by a fresh parser. -/
theorem command (allows : place.Allows p) (ts : List Token) :
    (place.parser p).command ts = place.reading (p.command ts) :=
  ((readingInvariant_moves place).command p ts).2 allows

/-- Outside of argument lists nodes are read at the place as by a fresh parser. -/
theorem nodes (allows : place.Allows p) (ts : List Token) :
    (place.parser p).nodes ts = place.reading (p.nodes ts) := by
  revert allows
  refine Parser.nodes_induction
    (motive := fun p ts result => place.Allows p → (place.parser p).nodes ts = place.reading result)
    ?nil ?command ?refused ?space ?blankLine ?text p ts
  case nil => exact fun p _ => Parser.nodes_nil
  case command =>
    intro p ts node rest q result read h allows
    have kept : place.Allows q := (Parser.command_keepsNesting read).1.trans allows
    rw [Parser.nodes_backslash, command allows, read, reading_map, ← h kept]
    rfl
  case refused =>
    intro p ts e q read allows
    rw [Parser.nodes_backslash, command allows, read]
    rfl
  case space =>
    intro p s ts result h allows
    rw [Parser.nodes_space, reading_map, ← h allows, parser_advance]
  case blankLine =>
    intro p s ts result h allows
    rw [Parser.nodes_blankLine, reading_map, ← h allows, parser_advance]
  case text =>
    intro p t ts result isText h allows
    rw [Parser.nodes_text isText, reading_map, ← h allows]

theorem block (allows : place.Allows p) (ts : List Token) :
    (place.parser p).block ts = place.reading (p.block ts) := by
  rw [Parser.block_eq_map, Parser.block_eq_map, nodes allows, reading_map]

/-- Paragraphs are read at the place as by a fresh parser. -/
theorem paragraphs (allows : place.Allows p) (ts : List Token) :
    (place.parser p).paragraphs ts = place.reading (p.paragraphs ts) := by
  induction ts using paragraphs_induction generalizing p with
  | last group noBlankLine =>
    rw [Parser.paragraphs_of_noBlankLine noBlankLine, Parser.paragraphs_of_noBlankLine noBlankLine,
      block allows, reading_map]
  | more group s rest noBlankLine ih =>
    have kept := Parser.block_keeps p group
    rw [Parser.paragraphs_block_append noBlankLine, Parser.paragraphs_block_append noBlankLine,
      block allows]
    cases read : p.block group with
    | error e q => rfl
    | ok paragraph q =>
      rw [read] at kept
      have allows' : place.Allows (q.advance (.blankLine s)) := kept.1.trans allows
      show Reading.map (paragraph :: ·)
          (((place.parser q).advance (.blankLine s)).paragraphs rest) =
        place.reading (Reading.map (paragraph :: ·) ((q.advance (.blankLine s)).paragraphs rest))
      rw [← parser_advance, ih allows', reading_map]

end Place

end TexMarkup
