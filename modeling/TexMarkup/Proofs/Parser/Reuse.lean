import TexMarkup.Proofs.Parser.Place

/-!
# Parsers that are used again

A parser can be asked for one reading after another, also after one that has failed. What
came before shows in three ways only: lines are counted from where the parser is, the
argument lists closed before stay in front, and every reading that has failed because of
nesting has taken one level of the limit away for good.

## Main definitions

* `Parser.Call`, `Parser.Call.perform`: what a parser can be asked for.
* `Parser.performAll`: one reading after another.

## Main results

* `Place.paragraph`, `Place.perform`: a call at a place is the call of a fresh parser moved
  there.
* `Parser.Call.perform_depthAfter`: what a call does to the depth.
* `Parser.reuse_eq_fresh`: a call after any other calls.
-/

namespace TexMarkup

/-! ## Calls -/

section Results

variable {α β : Type}

/-- The parser after the reading. -/
def Reading.parser : Reading α → Parser
  | .ok _ q | .error _ q => q

/-- The error of the reading, if it has failed. -/
def Reading.error? : Reading α → Option ParseError
  | .ok _ _ => none
  | .error e _ => some e

end Results

/-- Whether the text nests too deep. -/
def ParseError.isNestingTooDeep : ParseError → Bool
  | .nestingTooDeep _ _ => true
  | .missingCommandName _ _ => false

namespace Parser

/-- What a parser can be asked to read. -/
inductive Call where
  | document (ts : List Token)
  | block (ts : List Token)
  | paragraph (ts : List Token)
  | command (ts : List Token)

/-- What has been read, with the tokens that are left if not all are read. -/
inductive Built where
  | document (document : Document)
  | block (paragraph : Paragraph)
  | paragraph (nodes : List Node) (rest : List Token)
  | command (node : Node) (rest : List Token)
  deriving DecidableEq

/-- Reads what is asked for. -/
def Call.perform (p : Parser) : Call → Reading Built
  | document ts => Reading.map Built.document (p.document ts)
  | block ts => Reading.map Built.block (p.block ts)
  | paragraph ts => Reading.map (fun read => Built.paragraph read.1 read.2) (p.paragraph ts)
  | command ts => Reading.map (fun read => Built.command read.1 read.2) (p.command ts)

/-- The parser after calls one after the other, and the errors that they have returned. -/
def performAll (p : Parser) : List Call → Parser × List ParseError
  | [] => (p, [])
  | call :: calls =>
    let result := call.perform p
    let (q, errors) := performAll (Reading.parser result) calls
    (q, (Reading.error? result).toList ++ errors)

end Parser

/-! ## Calls at a place -/

namespace Place

variable {place : Place} {p : Parser}

/-- Up to a brace nodes are read at the place as by a fresh parser. -/
theorem paragraph (allows : place.Allows p) (ts : List Token) :
    (place.parser p).paragraph ts = place.reading (p.paragraph ts) := by
  revert allows
  refine Parser.paragraph_induction
    (motive := fun p ts result =>
      place.Allows p → (place.parser p).paragraph ts = place.reading result)
    ?nil ?stopped ?command ?refused ?space ?text p ts
  case nil => exact fun p _ => Parser.paragraph_nil
  case stopped => exact fun p t ts stops _ => Parser.paragraph_of_stops stops
  case command =>
    intro p ts node rest q result read h allows
    have kept : place.Allows q := (Parser.command_keepsNesting read).1.trans allows
    rw [Parser.paragraph_backslash, command allows, read, reading_map, ← h kept]
    rfl
  case refused =>
    intro p ts e q read allows
    rw [Parser.paragraph_backslash, command allows, read]
    rfl
  case space =>
    intro p s ts result h allows
    rw [Parser.paragraph_space, reading_map, ← h allows, parser_advance]
  case text =>
    intro p t ts result like h allows
    rw [Parser.paragraph_text like, reading_map, ← h allows]

theorem document (allows : place.Allows p) (ts : List Token) :
    (place.parser p).document ts = place.reading (p.document ts) := by
  rw [Parser.document_eq_map, Parser.document_eq_map, paragraphs allows, reading_map]

/-- A call at the place is answered as by a fresh parser. -/
theorem perform (allows : place.Allows p) (call : Parser.Call) :
    call.perform (place.parser p) = place.reading (call.perform p) := by
  cases call with
  | document ts => rw [Parser.Call.perform, document allows, ← reading_map]; rfl
  | block ts => rw [Parser.Call.perform, block allows, ← reading_map]; rfl
  | paragraph ts => rw [Parser.Call.perform, paragraph allows, ← reading_map]; rfl
  | command ts => rw [Parser.Call.perform, command allows, ← reading_map]; rfl

theorem parser_reading {α : Type} (result : Reading α) :
    Reading.parser (place.reading result) = place.parser (Reading.parser result) := by
  cases result <;> rfl

end Place

/-! ## The depth after a call -/

namespace Parser

variable {α β : Type} {p q : Parser}

/-- The depth after an error does not depend on what was to be read. -/
theorem DepthAfter.of_error {e : ParseError} (h : DepthAfter p (.error e q : Reading α)) :
    DepthAfter p (.error e q : Reading β) := by
  cases e <;> exact h

theorem command_depthAfter (p : Parser) (ts : List Token) : p.DepthAfter (p.command ts) :=
  ((Place.readingInvariant_moves ⟨0, 0, 0, []⟩).command p ts).1

theorem paragraph_depthAfter (p : Parser) (ts : List Token) : p.DepthAfter (p.paragraph ts) := by
  refine paragraph_induction (motive := fun p _ result => p.DepthAfter result)
    ?nil ?stopped ?command ?refused ?space ?text p ts
  case nil => exact fun p => rfl
  case stopped => exact fun p t ts _ => rfl
  case command =>
    exact fun p ts node rest q result read h =>
      (h.of_depth_eq (command_keepsNesting read).2.1).map
  case refused =>
    intro p ts e q read
    have after := p.command_depthAfter (.backslash :: ts)
    rw [read] at after
    exact after.of_error
  case space => exact fun p s ts result h => (h.of_depth_eq rfl).map
  case text => exact fun p t ts result _ h => h.map

theorem nodes_depthAfter (p : Parser) (ts : List Token) : p.DepthAfter (p.nodes ts) := by
  refine nodes_induction (motive := fun p _ result => p.DepthAfter result)
    ?nil ?command ?refused ?space ?blankLine ?text p ts
  case nil => exact fun p => rfl
  case command =>
    exact fun p ts node rest q result read h =>
      (h.of_depth_eq (command_keepsNesting read).2.1).map
  case refused =>
    intro p ts e q read
    have after := p.command_depthAfter (.backslash :: ts)
    rw [read] at after
    exact after.of_error
  case space => exact fun p s ts result h => (h.of_depth_eq rfl).map
  case blankLine => exact fun p s ts result h => (h.of_depth_eq rfl).map
  case text => exact fun p t ts result _ h => h.map

theorem block_depthAfter (p : Parser) (ts : List Token) : p.DepthAfter (p.block ts) := by
  rw [block_eq_map]
  exact (p.nodes_depthAfter ts).map

theorem paragraphs_depthAfter (p : Parser) (ts : List Token) : p.DepthAfter (p.paragraphs ts) := by
  induction ts using paragraphs_induction generalizing p with
  | last group noBlankLine =>
    rw [paragraphs_of_noBlankLine noBlankLine]
    exact (p.block_depthAfter group).map
  | more group s rest noBlankLine ih =>
    have first := p.block_depthAfter group
    rw [paragraphs_block_append noBlankLine]
    cases read : p.block group with
    | error e q =>
      rw [read] at first
      exact first.of_error
    | ok paragraph q =>
      rw [read] at first
      exact ((ih (q.advance (.blankLine s))).of_depth_eq first).map

/-- A call that fails because of nesting leaves the depth one higher than it was, and every
other call leaves it as it was. -/
theorem Call.perform_depthAfter (p : Parser) (call : Call) : p.DepthAfter (call.perform p) := by
  cases call with
  | document ts =>
    rw [perform, document_eq_map]
    exact (p.paragraphs_depthAfter ts).map.map
  | block ts => exact (p.block_depthAfter ts).map
  | paragraph ts => exact (p.paragraph_depthAfter ts).map
  | command ts => exact (p.command_depthAfter ts).map

theorem DepthAfter.depth_eq {result : Reading α} (h : DepthAfter p result) :
    (Reading.parser result).depth =
      p.depth + (Reading.error? result).toList.countP ParseError.isNestingTooDeep := by
  cases result with
  | ok x q => exact h
  | error e q => cases e <;> exact h

/-! ## Calls after calls -/

/-- A call keeps the limit of the parser and never goes back by a line. -/
theorem Call.perform_keeps (p : Parser) (call : Call) :
    (Reading.parser (call.perform p)).maxDepth = p.maxDepth ∧
      p.line ≤ (Reading.parser (call.perform p)).line := by
  -- Every parser is one that has counted no lines yet, moved to where it is.
  let here : Place := ⟨p.maxDepth, p.depth, p.line, p.implicitCloses⟩
  have same : here.parser ⟨p.maxDepth - p.depth, 0, 0, []⟩ = p := by simp [Place.parser, here]
  have moved := here.perform (p := ⟨p.maxDepth - p.depth, 0, 0, []⟩) rfl call
  rw [same] at moved
  rw [moved, Place.parser_reading]
  exact ⟨rfl, Nat.le_add_right _ _⟩

/-- A parser that is on a line answers as a fresh one moved to where it is. -/
theorem Call.perform_eq_reading {p : Parser} (started : 1 ≤ p.line) (call : Call) :
    call.perform p =
      Place.reading ⟨p.maxDepth, p.depth, p.line - 1, p.implicitCloses⟩
        (call.perform (Parser.mk (p.maxDepth - p.depth) 0 1 [])) := by
  let here : Place := ⟨p.maxDepth, p.depth, p.line - 1, p.implicitCloses⟩
  have same : here.parser (Parser.mk (p.maxDepth - p.depth) 0 1 []) = p := by
    simp [Place.parser, here, Nat.sub_add_cancel started]
  have moved := here.perform (p := Parser.mk (p.maxDepth - p.depth) 0 1 []) rfl call
  rwa [same] at moved

/-- Every error about nesting has left the depth one higher. -/
theorem performAll_keeps (p : Parser) (calls : List Call) :
    let (q, errors) := performAll p calls
    q.maxDepth = p.maxDepth ∧ p.line ≤ q.line ∧
      q.depth = p.depth + errors.countP ParseError.isNestingTooDeep := by
  induction calls generalizing p with
  | nil => exact ⟨rfl, Nat.le_refl _, rfl⟩
  | cons call calls ih =>
    obtain ⟨limit, line⟩ := call.perform_keeps p
    have depth := (call.perform_depthAfter p).depth_eq
    obtain ⟨limit', line', depth'⟩ := ih (Reading.parser (call.perform p))
    refine ⟨limit'.trans limit, Nat.le_trans line line', ?_⟩
    rw [depth, Nat.add_assoc, ← List.countP_append] at depth'
    exact depth'

/-- A call to a parser that has answered any calls before, whether they have failed or not.
The parser is as deep as there were errors about nesting. It returns what a fresh parser does
that allows as many commands as are left, with lines counted from where it is, its own limit
reported, and the lists closed before in front of the new ones, which are kept when the call
fails. The depth stays, or is one higher after an error about nesting. -/
theorem reuse_eq_fresh (maxDepth : Nat) (calls : List Call) (call : Call) :
    let (p, errors) := performAll (Parser.mk maxDepth 0 1 []) calls
    let place : Place := ⟨maxDepth, p.depth, p.line - 1, p.implicitCloses⟩
    1 ≤ p.line ∧ p.maxDepth = maxDepth ∧
      p.depth = errors.countP ParseError.isNestingTooDeep ∧
      call.perform p = place.reading (call.perform (Parser.mk (maxDepth - p.depth) 0 1 [])) ∧
      p.DepthAfter (call.perform p) := by
  have kept := performAll_keeps (Parser.mk maxDepth 0 1 []) calls
  generalize performAll (Parser.mk maxDepth 0 1 []) calls = run at kept ⊢
  obtain ⟨p, errors⟩ := run
  obtain ⟨limit, started, depth⟩ := kept
  have moved := call.perform_eq_reading started
  rw [limit] at moved
  exact ⟨started, limit, depth.trans (Nat.zero_add _), moved, call.perform_depthAfter p⟩

/-- A text that is refused for its nesting leaves room for one command less, and what was
closed in front of the error stays. -/
example :
    let refused := Call.document (tokenize "\\b\x7bx\n\n\\b\x7b\\i\x7b\\u")
    let call := Call.command (tokenize "\\b\x7b\\i")
    let (p, errors) := performAll (Parser.mk 2 0 1 []) [refused]
    errors = [.nestingTooDeep 3 2] ∧ p.implicitCloses = [⟨"b", 1⟩] ∧
      Reading.error? (call.perform p) = some (.nestingTooDeep 3 2) := by
  decide +kernel

end Parser

end TexMarkup
