import TexMarkup.Proofs.Parser.Machine

/-!
# The parser does what the machine does

The commands in which a parser is nested are the lists on the stack of the
machine. A reading of a command or of an argument list is a stretch of the run,
at whose end the stack is as high as the reading has left it.

## Main definitions

* `Machine.At`: the machine is where a parser is.
* `Reading.outcome`: what is observed of a reading.

## Main results

* `Machine.simulates`: readings of commands and argument lists are stretches of
  the run.
* `Parser.nodes_run`: so are readings of paragraphs.
* `Parser.document_outcome_eq_read`: documents, implicit closes and errors are
  those of the machine.
-/

namespace TexMarkup

/-- What is observed of a reading: its value with the lists closed implicitly, or
the error. -/
def Reading.outcome {α : Type} : Reading α → Except ParseError (α × List ImplicitClose)
  | .ok a p => .ok (a, p.implicitCloses)
  | .error e _ => .error e

theorem Reading.toExcept_eq_map_outcome {α : Type} (result : Reading α) :
    result.toExcept = result.outcome.map Prod.fst := by
  cases result <;> rfl

/-- Whether a paragraph ends in front of the tokens. -/
def endsParagraph : List Token → Bool
  | [] => true
  | t :: _ => t.isBlankLine

/-- In front of the end of a paragraph, a token that does not end it is one of the
paragraph's own. -/
private theorem append_ne_cons {ts after : List Token} {t : Token}
    (atEnd : endsParagraph after = true) (notBlankLine : t.isBlankLine = false)
    (other : ∀ rest, ts ≠ t :: rest) (rest : List Token) : ts ++ after ≠ t :: rest := by
  intro same
  rcases ts with _ | ⟨t', ts⟩
  · rw [List.nil_append] at same
    subst same
    exact absurd (atEnd.symm.trans notBlankLine).symm Bool.false_ne_true
  · obtain ⟨rfl, -⟩ := List.cons_eq_cons.mp same
    exact other ts rfl

namespace Machine

/-- The machine has as many open lists as the parser is deep in commands, and
agrees with it on the limit, the line and the implicit closes. -/
structure At (m : Machine) (p : Parser) : Prop where
  maxDepth : m.maxDepth = p.maxDepth
  depth : m.stack.length = p.depth
  line : m.line = p.line
  closes : m.closes = p.implicitCloses

/-- The machine with the line and the implicit closes of a parser. -/
def sync (m : Machine) (p : Parser) : Machine :=
  { m with line := p.line, closes := p.implicitCloses }

/-- The machine with more nodes in the current paragraph. -/
def addNodes (m : Machine) (nodes : List Node) : Machine :=
  { m with nodes := m.nodes ++ nodes }

/-- The machine with more paragraphs behind it. -/
def addParagraphs (m : Machine) (paragraphs : List Paragraph) : Machine :=
  { m with paragraphs := m.paragraphs ++ paragraphs }

/-- The run after the end of a paragraph. -/
def resume (m : Machine) : List Token → Except ParseError Machine
  | [] => .ok m
  | separator :: ts => (m.advance separator).run ts

variable {m : Machine} {p q : Parser} {name : String} {node : Node} {t : Token}
  {ts after : List Token}

theorem At.sync_eq (h : m.At p) : m.sync p = m := by
  rw [sync, ← h.line, ← h.closes]

/-- The parser returns nodes, so adding them to the machine does not move the parser. -/
theorem At.append (h : m.At p) (node : Node) : (m.append node).At p := by
  refine ⟨?_, (append_stack_length node).trans h.depth, ?_, ?_⟩
  · rw [← h.maxDepth, Machine.append]; split <;> rfl
  · rw [← h.line, Machine.append]; split <;> rfl
  · rw [← h.closes, Machine.append]; split <;> rfl

theorem At.advance_append (h : m.At p) (t : Token) (node : Node) :
    (m.append node).advance t = (m.sync (p.advance t)).append node := by
  simp only [Machine.append, Machine.sync, Parser.advance, ← h.line, ← h.closes]
  split <;> rfl

/-- The newlines of a token are counted by both. -/
theorem At.advance (h : m.At p) (t : Token) : (m.advance t).At (p.advance t) :=
  ⟨h.maxDepth, h.depth, congrArg (· + t.newlineCount) h.line, h.closes⟩

/-- Entering a command is putting its list on the stack. -/
theorem At.push (h : m.At p) (list : OpenList) : (m.push list).At p.enter :=
  ⟨h.maxDepth, congrArg (· + 1) h.depth, h.line, h.closes⟩

theorem At.sync (h : m.At p) (limit : q.maxDepth = p.maxDepth) (depth : q.depth = p.depth) :
    (m.sync q).At q :=
  ⟨h.maxDepth.trans limit.symm, h.depth.trans depth.symm, rfl, rfl⟩

/-- The end of a paragraph is found by the machine where the parser finds no more tokens. -/
theorem At.missingName (h : m.At p) (noBlankLine : ∀ t ∈ ts, t.isBlankLine = false)
    (ends : endsParagraph after = true) : m.missingName (ts ++ after) = p.missingName ts := by
  cases ts with
  | nil =>
    cases after with
    | nil => rw [List.append_nil, Machine.missingName, Parser.missingName, h.line]; rfl
    | cons t after =>
      cases t with
      | blankLine s => rw [List.nil_append, Machine.missingName, Parser.missingName, h.line]; rfl
      | _ => exact absurd ends Bool.false_ne_true
  | cons t ts =>
    cases t with
    | blankLine s => exact absurd (noBlankLine _ List.mem_cons_self).symm Bool.false_ne_true
    | _ => rw [List.cons_append, Machine.missingName, Parser.missingName, h.line] <;> simp

theorem run_of_endsParagraph (ends : endsParagraph after = true) :
    m.run after = m.endParagraph.resume after := by
  rcases after with _ | ⟨t, after⟩
  · rw [run, resume]
  · cases t with
    | blankLine s => rw [run, resume]
    | _ => exact absurd ends Bool.false_ne_true

/-! ## Steps of the parser and of the machine -/

/-- Parser and machine agree on whether there is room for a command. -/
theorem At.fits (h : m.At p) (fits : ¬ p.maxDepth < p.depth + 1) :
    ¬ m.maxDepth < m.stack.length + 1 := by
  rwa [h.maxDepth, h.depth]

/-- They report a missing name with the same error. -/
theorem At.run_missingName (h : m.At p) (noBlankLine : ∀ t ∈ ts, t.isBlankLine = false)
    (ends : endsParagraph after = true) (found : ∀ name rest, ts ≠ .word name :: rest) :
    m.run (.backslash :: (ts ++ after)) = .error (p.missingName ts) := by
  rw [run_of_name_missing, h.missingName noBlankLine ends]
  exact fun name => append_ne_cons ends rfl (found name)

/-- They report a command that lies too deep with the same error. -/
theorem At.run_tooDeep (h : m.At p) (deep : p.maxDepth < p.depth + 1) :
    m.run (.backslash :: .word name :: ts) = .error (.nestingTooDeep p.line p.maxDepth) := by
  rw [← h.maxDepth, ← h.depth] at deep
  rw [run_of_tooDeep deep, h.line, h.maxDepth]

/-- The parser counts the blanks that set a command off before it has built the command, and
the machine after that. -/
theorem At.run_delimited (h : m.At p) (fits : ¬ p.maxDepth < p.depth + 1) (s : String) :
    m.run (.backslash :: .word name :: .space s :: ts) =
      ((m.sync (p.advance (.space s))).append (.command name [])).run ts := by
  rw [Machine.run_delimited (h.fits fits), h.advance_append]

theorem At.run_bare (h : m.At p) (fits : ¬ p.maxDepth < p.depth + 1)
    (ends : endsParagraph after = true) (noBrace : ∀ rest, ts ≠ .leftBrace :: rest)
    (noSpace : ∀ s rest, ts ≠ .space s :: rest) :
    m.run (.backslash :: .word name :: (ts ++ after)) =
      ((m.sync p).append (.command name [])).run (ts ++ after) := by
  rw [Machine.run_bare (h.fits fits), h.sync_eq]
  · exact append_ne_cons ends rfl noBrace
  · exact fun s => append_ne_cons ends rfl (noSpace s)

theorem At.run_space (h : m.At p) (s : String) :
    ((m.sync (p.advance (.space s))).append .space).At (p.advance (.space s)) ∧
      m.run (.space s :: ts) = ((m.sync (p.advance (.space s))).append .space).run ts := by
  refine ⟨At.append (h.sync (q := p.advance (.space s)) rfl rfl) .space, ?_⟩
  rw [run, h.advance_append]

theorem At.run_text (h : m.At p) (isText : t.isArgumentText = true) :
    ((m.sync p).append (.text t.text)).At p ∧
      m.run (t :: ts) = ((m.sync p).append (.text t.text)).run ts := by
  rw [h.sync_eq]
  exact ⟨h.append _, Machine.run_text isText⟩

/-- Outside of all lists, the end of a paragraph trims the nodes that were added. -/
theorem endParagraph_addNodes (empty : m.stack = []) (fresh : m.nodes = []) (nodes : List Node) :
    (m.addNodes nodes).endParagraph = m.addParagraphs [⟨Parser.trimSpaces nodes⟩] := by
  have closed : (m.addNodes nodes).closeAll = m.addNodes nodes := closeAll_of_stack_nil empty
  rw [endParagraph, closed]
  simp only [addNodes, addParagraphs, fresh, List.nil_append]

/-! ## Commands and argument lists -/

/-- The reading of a command is a stretch of the machine's run, in a paragraph that
ends after the tokens. -/
def SimulatesCommand (p : Parser) (ts : List Token) (result : Reading (Node × List Token)) : Prop :=
  ∀ (m : Machine) (after : List Token), m.At p → ts.head? = some .backslash →
    (∀ t ∈ ts, t.isBlankLine = false) → endsParagraph after = true →
    match result with
    | .ok read q => m.run (ts ++ after) = ((m.sync q).append read.1).run (read.2 ++ after)
    | .error e _ => m.run (ts ++ after) = .error e

/-- The reading of an argument list is a stretch of the machine's run, at the
beginning of which the list lies on the stack. -/
def SimulatesArguments (p : Parser) (name : String) (line : Nat) (ts : List Token)
    (result : Reading (List Node × List Token)) : Prop :=
  ∀ (m : Machine) (children : List Node) (after : List Token),
    (m.push ⟨name, line, children⟩).At p →
    (∀ t ∈ ts, t.isBlankLine = false) → endsParagraph after = true →
    match result with
    | .ok read q =>
      (m.push ⟨name, line, children⟩).run (ts ++ after) =
        ((m.sync q).append (.command name (children ++ read.1))).run (read.2 ++ after)
    | .error e _ => (m.push ⟨name, line, children⟩).run (ts ++ after) = .error e

/-- A node in front is a stretch of the run of its own. -/
theorem SimulatesArguments.map_before {line : Nat} {rest : List Token}
    {result : Reading (List Node × List Token)} (h : SimulatesArguments q name line rest result)
    (ends : rest <:+ ts)
    (stretch : ∀ (m : Machine) (after : List Token), m.At p →
      (∀ t ∈ ts, t.isBlankLine = false) → endsParagraph after = true →
      ((m.sync q).append node).At q ∧
        m.run (ts ++ after) = ((m.sync q).append node).run (rest ++ after)) :
    SimulatesArguments p name line ts (Reading.map (Parser.before node) result) := by
  intro m children after at_ noBlankLine atEnd
  obtain ⟨at', run_eq⟩ := stretch _ after at_ noBlankLine atEnd
  -- The node has been added to the list on top, so the rest is read with one more child.
  have listed := h (m.sync q) (children ++ [node]) after at'
    (fun t mem => noBlankLine t (ends.subset mem)) atEnd
  cases result with
  | ok read q' =>
    simp only [List.append_assoc] at listed
    exact run_eq.trans listed
  | error e q' => exact run_eq.trans listed

/-- The stretch of an argument list is that of its command too, once the list has been
opened. -/
theorem SimulatesArguments.asCommand {result : Reading (List Node × List Token)}
    (h : SimulatesArguments p.enter name p.line ts result) (fits : ¬ p.maxDepth < p.depth + 1) :
    SimulatesCommand p (.backslash :: .word name :: .leftBrace :: ts)
      (Parser.asCommand name result) := by
  intro m after at_ _ noBlankLine atEnd
  have listed := h m [] after (at_.line ▸ at_.push ⟨name, m.line, []⟩)
    (fun t mem => noBlankLine t (by simp [mem])) atEnd
  rw [← at_.line] at listed
  cases result with
  | ok read q => exact (run_leftBrace (at_.fits fits)).trans listed
  | error e q => exact (run_leftBrace (at_.fits fits)).trans listed

/-- The parser closes a list before the paragraph ends, and the machine when it ends. -/
theorem simulatesArguments_nil (p : Parser) (name : String) (line : Nat) :
    SimulatesArguments p name line [] (.ok ([], []) (p.closeImplicitly name line)) := by
  intro m children after at_ _ atEnd
  have noted : (m.push ⟨name, line, children⟩).closeImplicitly =
      (m.sync (p.closeImplicitly name line)).append (.command name children) := by
    rw [sync, Parser.closeImplicitly, ← at_.line, ← at_.closes]
    rfl
  simp only [List.append_nil, List.nil_append]
  rw [← noted, run_of_endsParagraph atEnd, run_of_endsParagraph atEnd,
    endParagraph_closeImplicitly rfl]

/-- Popping the list gives back the machine that it was pushed on. -/
theorem simulatesArguments_rightBrace (p : Parser) (name : String) (line : Nat)
    (ts : List Token) :
    SimulatesArguments p name line (.rightBrace :: ts) (.ok ([], ts) p) := by
  intro m children after at_ _ _
  have synced : m.sync p = m := by
    rw [sync, ← at_.line, ← at_.closes]
    rfl
  simp only [synced, List.append_nil, List.cons_append, run]
  rfl

/-- Readings of commands and argument lists are stretches of the run. -/
theorem simulates : Parser.ReadingInvariant SimulatesCommand SimulatesArguments where
  noBackslash p ts found m after _ starts := by
    obtain ⟨rest, same⟩ := List.head?_eq_some_iff.mp starts
    exact absurd same (found rest)
  noName p ts found m after at_ _ noBlankLine atEnd :=
    at_.run_missingName (fun t mem => noBlankLine t (List.mem_cons_of_mem _ mem)) atEnd found
  tooDeep p name ts deep m after at_ _ _ _ := at_.run_tooDeep deep
  braces p name ts result fits h := h.asCommand fits
  delimited p name s ts fits m after at_ _ _ _ := at_.run_delimited fits s
  bare p name ts fits noBrace noSpace m after at_ _ _ atEnd :=
    at_.run_bare fits atEnd noBrace noSpace
  ended := simulatesArguments_nil
  interrupted p name line s ts m children after _ noBlankLine _ :=
    absurd (noBlankLine _ List.mem_cons_self).symm Bool.false_ne_true
  closed := simulatesArguments_rightBrace
  nested p name line ts node rest q result read command h := by
    -- The command has left the stack as high as it was, so the list is on top again.
    obtain ⟨limit, depth, ends⟩ := Parser.command_keepsNesting read
    refine h.map_before ends fun m after at_ noBlankLine atEnd => ⟨?_, ?_⟩
    · exact (at_.sync limit depth).append node
    · exact command m after at_ rfl noBlankLine atEnd
  refused p name line ts e q command m children after at_ noBlankLine atEnd :=
    command _ after at_ rfl noBlankLine atEnd
  blank p name line s ts result h :=
    h.map_before (List.suffix_cons _ ts) fun m after at_ _ _ => at_.run_space s
  text p name line t ts result isText h :=
    h.map_before (List.suffix_cons _ ts) fun m after at_ _ _ => at_.run_text isText

end Machine

/-! ## Paragraphs -/

namespace Parser

open Machine

/-- The reading of nodes outside of all commands is a stretch of the machine's run,
which ends with its paragraph. -/
def SimulatesNodes (p : Parser) (ts : List Token) (result : Reading (List Node)) : Prop :=
  ∀ (m : Machine) (after : List Token), m.At p → m.stack = [] →
    (∀ t ∈ ts, t.isBlankLine = false) → endsParagraph after = true →
    match result with
    | .ok ns q =>
      ((m.sync q).addNodes ns).At q ∧ m.run (ts ++ after) = ((m.sync q).addNodes ns).run after
    | .error e _ => m.run (ts ++ after) = .error e

/-- Outside of all commands a node in front is a stretch of its own too. -/
theorem SimulatesNodes.map_cons {p q : Parser} {ts rest : List Token} {node : Node}
    {result : Reading (List Node)} (h : SimulatesNodes q rest result) (ends : rest <:+ ts)
    (stretch : ∀ (m : Machine) (after : List Token), m.At p → m.stack = [] →
      (∀ t ∈ ts, t.isBlankLine = false) → endsParagraph after = true →
      ((m.sync q).append node).At q ∧
        m.run (ts ++ after) = ((m.sync q).append node).run (rest ++ after)) :
    SimulatesNodes p ts (Reading.map (node :: ·) result) := by
  intro m after at_ empty noBlankLine atEnd
  obtain ⟨at', run_eq⟩ := stretch m after at_ empty noBlankLine atEnd
  have appended : (m.sync q).append node = (m.sync q).addNodes [node] := by
    simp only [append, sync, empty, addNodes]
  have listed := h _ after at' (by rw [appended]; exact empty)
    (fun t mem => noBlankLine t (ends.subset mem)) atEnd
  rw [run_eq]
  rw [appended] at listed ⊢
  cases result with
  | ok ns q' =>
    simp only [addNodes, sync, List.append_assoc, List.singleton_append] at listed
    exact listed
  | error e q' => exact listed

/-- Readings of nodes outside of all commands are stretches of the run. -/
theorem nodes_run (p : Parser) (ts : List Token) : SimulatesNodes p ts (p.nodes ts) := by
  refine nodes_induction (motive := SimulatesNodes) ?nil ?command ?refused ?space ?blankLine ?text
    p ts
  case nil =>
    intro p m after at_ _ _ _
    simp only [addNodes, List.append_nil, List.nil_append, at_.sync_eq]
    exact ⟨at_, trivial⟩
  case command =>
    intro p ts node rest q result read h
    obtain ⟨limit, depth, ends⟩ := command_keepsNesting read
    refine h.map_cons ends fun m after at_ _ noBlankLine atEnd => ⟨?_, ?_⟩
    · exact (at_.sync limit depth).append node
    · have stretch := simulates.command p (.backslash :: ts) m after at_ rfl noBlankLine atEnd
      rwa [read] at stretch
  case refused =>
    intro p ts e q read m after at_ _ noBlankLine atEnd
    have stretch := simulates.command p (.backslash :: ts) m after at_ rfl noBlankLine atEnd
    rwa [read] at stretch
  case space =>
    intro p s ts result h
    exact h.map_cons (List.suffix_cons _ ts) fun m after at_ _ _ _ => at_.run_space s
  case blankLine =>
    intro p s ts result _ m after _ _ noBlankLine _
    exact absurd (noBlankLine _ List.mem_cons_self).symm Bool.false_ne_true
  case text =>
    intro p t ts result isText h
    refine h.map_cons (List.suffix_cons _ ts) fun m after at_ empty _ _ => ?_
    rcases isText with rfl | isText
    · -- A closing brace is text here, because no list is open.
      rw [at_.sync_eq, List.cons_append, run, close, empty]
      exact ⟨at_.append _, rfl⟩
    · exact at_.run_text isText

/-! ## Documents -/

/-- The reading of a group is the rest of the run up to the end of the paragraph. -/
theorem block_run {p : Parser} {group : List Token} {m : Machine} (after : List Token)
    (at_ : m.At p) (empty : m.stack = []) (fresh : m.nodes = [])
    (noBlankLine : ∀ t ∈ group, t.isBlankLine = false) (ends : endsParagraph after = true) :
    match p.block group with
    | .ok paragraph q =>
      ((m.sync q).addParagraphs [paragraph]).At q ∧
        m.run (group ++ after) = ((m.sync q).addParagraphs [paragraph]).resume after
    | .error e _ => m.run (group ++ after) = .error e := by
  have stretch := nodes_run p group m after at_ empty noBlankLine ends
  rw [block]
  cases read : p.nodes group with
  | error e q => rwa [read] at stretch
  | ok ns q =>
    rw [read] at stretch
    refine ⟨⟨stretch.1.maxDepth, stretch.1.depth, rfl, rfl⟩, ?_⟩
    have ended := endParagraph_addNodes (m := m.sync q) empty fresh ns
    rw [stretch.2, run_of_endsParagraph ends, ended]

/-- The reading of all groups is the rest of the machine's run. -/
theorem groups_run (ts : List Token) :
    ∀ (p : Parser) (m : Machine), m.At p → m.stack = [] → m.nodes = [] →
      match p.groups (splitParagraphs ts) (ts.filter Token.isBlankLine) with
      | .ok paragraphs q => m.run ts = .ok ((m.sync q).addParagraphs paragraphs)
      | .error e _ => m.run ts = .error e := by
  have noSeparator {group : List Token} (noBlankLine : ∀ t ∈ group, t.isBlankLine = false) :
      group.filter Token.isBlankLine = [] :=
    List.filter_eq_nil_iff.mpr (by simpa using noBlankLine)
  induction ts using paragraphs_induction with
  | last group noBlankLine =>
    intro p m at_ empty fresh
    have stretch := block_run [] at_ empty fresh noBlankLine rfl
    rw [List.append_nil] at stretch
    rw [splitParagraphs_of_noBlankLine noBlankLine, noSeparator noBlankLine, groups]
    cases read : p.block group with
    | error e q => rwa [read] at stretch
    | ok paragraph q =>
      rw [read] at stretch
      exact stretch.2
  | more group s rest noBlankLine ih =>
    intro p m at_ empty fresh
    have stretch := block_run (.blankLine s :: rest) at_ empty fresh noBlankLine rfl
    rw [splitParagraphs_append_blankLine noBlankLine, List.filter_append, noSeparator noBlankLine,
      List.nil_append, List.filter_cons_of_pos rfl, groups]
    cases read : p.block group with
    | error e q => rwa [read] at stretch
    | ok paragraph q =>
      rw [read] at stretch
      obtain ⟨at', run_eq⟩ := stretch
      -- The blank line belongs to neither paragraph, but its lines are counted.
      have onwards := ih (q.advance (.blankLine s)) _ (at'.advance (.blankLine s)) empty fresh
      simp only [List.tail_cons]
      cases further : (q.advance (.blankLine s)).groups (splitParagraphs rest)
          (rest.filter Token.isBlankLine) with
      | error e q' =>
        rw [further] at onwards
        exact run_eq.trans onwards
      | ok paragraphs q' =>
        have joined :
            ((((m.sync q).addParagraphs [paragraph]).advance (.blankLine s)).sync q').addParagraphs
              paragraphs = (m.sync q').addParagraphs (paragraph :: paragraphs) := by
          simp only [addParagraphs, Machine.advance, sync, List.append_assoc, List.singleton_append]
        rw [further] at onwards
        exact run_eq.trans (onwards.trans (congrArg Except.ok joined))

/-- The run of a fresh machine ends where the reading of a fresh parser ends. -/
theorem document_run (maxDepth : Nat) (ts : List Token) :
    match document (Parser.mk maxDepth 0 1 []) ts with
    | .ok d q =>
      Machine.run { maxDepth } ts =
        .ok { maxDepth, line := q.line, closes := q.implicitCloses, paragraphs := d.paragraphs }
    | .error e _ => Machine.run { maxDepth } ts = .error e := by
  have whole := groups_run ts (Parser.mk maxDepth 0 1 []) { maxDepth } ⟨rfl, rfl, rfl, rfl⟩ rfl rfl
  rw [document]
  cases read : groups (Parser.mk maxDepth 0 1 []) (splitParagraphs ts)
      (ts.filter Token.isBlankLine) with
  | error e q => rwa [read] at whole
  | ok paragraphs q => rwa [read] at whole

/-- A fresh parser reads the same document from every list of tokens as the stack
machine, with the same implicit closes in the same order, or finds the same first
error. -/
theorem document_outcome_eq_read (maxDepth : Nat) (ts : List Token) :
    (document (Parser.mk maxDepth 0 1 []) ts).outcome = Machine.read maxDepth ts := by
  have whole := document_run maxDepth ts
  rw [Machine.read]
  cases read : document (Parser.mk maxDepth 0 1 []) ts with
  | error e q =>
    rw [read] at whole
    rw [whole]
    rfl
  | ok d q =>
    rw [read] at whole
    rw [whole]
    rfl

end Parser

end TexMarkup
