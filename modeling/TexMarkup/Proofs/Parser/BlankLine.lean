import TexMarkup.Proofs.Parser.Group

/-!
# Blank lines inside of a block

A block may hold blank lines. Each of them ends what is open in it and becomes a space, so
the nodes of the block are those of the groups of tokens between its blank lines, one after
the other. A document that is read from the same tokens by the same parser trims each group
by itself; apart from this the two readings do the same.

Only a backslash right in front of a blank line makes a difference: in a document nothing
follows it, in a block a blank line does.

## Main definitions

* `ParseError.beforeBlankLine`: the error where a blank line comes next.
* `Reading.thenBlankLine`: a reading that goes on behind a blank line.
* `Parser.LocatesError`: an error that is that of a backslash in the tokens.
* `Parser.ReadsThrough`: tokens that are read piece by piece up to the last one.

## Main results

* `Parser.command_append_blankLine`: what stands behind a blank line does not matter to a
  command in front of it.
* `Parser.nodes_append_blankLine`: the nodes on both sides of a blank line.
* `Parser.block_agrees_document`: a block and a document of the same tokens.
-/

namespace TexMarkup

/-! ## Errors in front of a blank line -/

/-- The same error where a blank line comes next and not the end of the tokens. -/
def ParseError.beforeBlankLine : ParseError → ParseError
  | .missingCommandName line found =>
    .missingCommandName line (if found = "end of input" then "a blank line" else found)
  | .nestingTooDeep line limit => .nestingTooDeep line limit

/-- No token is described as the end of the tokens is. -/
theorem Token.describe_ne_endOfInput (t : Token) : t.describe ≠ "end of input" := by
  intro same
  have first := congrArg (fun s => s.toList.head?) same
  cases t <;> simp [describe] at first

namespace Parser

variable {α β : Type} {p q : Parser} {ts rest : List Token} {s : String}

/-- A backslash is followed by the same with a blank line at the end, unless it is the last
token. -/
theorem missingName_append_blankLine (p : Parser) (ts : List Token) (s : String)
    (rest : List Token) :
    p.missingName (ts ++ .blankLine s :: rest) = (p.missingName ts).beforeBlankLine := by
  cases ts with
  | nil => rfl
  | cons t ts =>
    have other : t.describe ≠ "end of input" := t.describe_ne_endOfInput
    simp [missingName, ParseError.beforeBlankLine, other]

end Parser

/-! ## What is read in front of a blank line -/

section Followed

variable {α : Type}

/-- A reading of the same tokens where a blank line and more tokens stand behind them. -/
def Reading.followedBy (s : String) (rest : List Token) :
    Reading (α × List Token) → Reading (α × List Token)
  | .ok read q => .ok (read.1, read.2 ++ .blankLine s :: rest) q
  | .error e q => .error e.beforeBlankLine q

/-- A reading of all tokens that goes on behind a blank line, which becomes a space. -/
def Reading.thenBlankLine (s : String) (rest : List Token) :
    Reading (List Node) → Reading (List Node)
  | .ok nodes q => Reading.map (nodes ++ .space :: ·) ((q.advance (.blankLine s)).nodes rest)
  | .error e q => .error e.beforeBlankLine q

theorem Reading.thenBlankLine_map_cons (s : String) (rest : List Token) (node : Node)
    (result : Reading (List Node)) :
    thenBlankLine s rest (Reading.map (node :: ·) result) =
      Reading.map (node :: ·) (thenBlankLine s rest result) := by
  cases result with
  | error e q => rfl
  | ok nodes q =>
    simp only [Reading.map_ok, thenBlankLine]
    cases (q.advance (.blankLine s)).nodes rest <;> rfl

end Followed

namespace Parser

variable {α β : Type} {p q : Parser} {ts rest : List Token}

theorem readingInvariant_followedBy (s : String) (rest : List Token) :
    ReadingInvariant
      (fun p ts result => p.command (ts ++ .blankLine s :: rest) = result.followedBy s rest)
      (fun p name line ts result =>
        p.arguments name line (ts ++ .blankLine s :: rest) = result.followedBy s rest) where
  noBackslash p ts noBackslash := by
    rw [command_of_head_ne, missingName_append_blankLine, Reading.followedBy]
    cases ts with
    | nil => simp
    | cons t ts => simpa using noBackslash
  noName p ts noName := by
    rw [List.cons_append, command_of_name_missing, missingName_append_blankLine, Reading.followedBy]
    cases ts with
    | nil => simp
    | cons t ts => simpa using noName
  tooDeep p name ts deep := by
    rw [List.cons_append, List.cons_append, command_of_tooDeep deep]
    rfl
  braces p name ts result fits ih := by
    rw [List.cons_append, List.cons_append, List.cons_append, command_leftBrace fits, ih]
    cases result <;> rfl
  delimited p name s' ts fits := by
    rw [List.cons_append, List.cons_append, List.cons_append, command_space fits]
    rfl
  bare p name ts fits noBrace noSpace := by
    rw [List.cons_append, List.cons_append, command_bare fits]
    · rfl
    -- A blank line opens no list and is no run of blanks that sets the name off.
    all_goals cases ts <;> simp_all
  ended p name line := arguments_blankLine s
  interrupted p name line s' ts := arguments_blankLine s'
  closed p name line ts := arguments_rightBrace
  nested p name line ts node after q result _ commanded ih := by
    rw [List.cons_append] at commanded ⊢
    rw [arguments_backslash, commanded]
    show Reading.map (before node) (q.arguments name line (after ++ .blankLine s :: rest)) = _
    rw [ih]
    cases result <;> rfl
  refused p name line ts e q commanded := by
    rw [List.cons_append] at commanded ⊢
    rw [arguments_backslash, commanded]
    rfl
  blank p name line s' ts result ih := by
    rw [List.cons_append, arguments_space, ih]
    cases result <;> rfl
  text p name line t ts result isText ih := by
    rw [List.cons_append, arguments_text isText, ih]
    cases result <;> rfl

/-- A command in front of a blank line is read without a look behind the blank line. -/
theorem command_append_blankLine (p : Parser) (ts : List Token) (s : String) (rest : List Token) :
    p.command (ts ++ .blankLine s :: rest) = (p.command ts).followedBy s rest :=
  (readingInvariant_followedBy s rest).command p ts

/-- The nodes on both sides of a blank line are read one after the other. -/
theorem nodes_append_blankLine (p : Parser) (ts : List Token) (s : String) (rest : List Token) :
    p.nodes (ts ++ .blankLine s :: rest) = (p.nodes ts).thenBlankLine s rest := by
  refine nodes_induction
    (motive := fun p ts result =>
      p.nodes (ts ++ .blankLine s :: rest) = result.thenBlankLine s rest)
    ?nil ?command ?refused ?space ?blankLine ?text p ts
  case nil =>
    intro p
    exact nodes_blankLine s
  case command =>
    intro p ts node after q result read ih
    have commanded := command_append_blankLine p (.backslash :: ts) s rest
    rw [read, List.cons_append] at commanded
    rw [List.cons_append, nodes_backslash, commanded, Reading.thenBlankLine_map_cons, ← ih]
    rfl
  case refused =>
    intro p ts e q refused
    have commanded := command_append_blankLine p (.backslash :: ts) s rest
    rw [refused, List.cons_append] at commanded
    rw [List.cons_append, nodes_backslash, commanded]
    rfl
  case space =>
    intro p s' ts result ih
    rw [List.cons_append, nodes_space, ih, Reading.thenBlankLine_map_cons]
  case blankLine =>
    intro p s' ts result ih
    rw [List.cons_append, nodes_blankLine, ih, Reading.thenBlankLine_map_cons]
  case text =>
    intro p t ts result isText ih
    rw [List.cons_append, nodes_text isText, ih, Reading.thenBlankLine_map_cons]

/-! ## Where an error is -/

/-- Where a reading fails, its error is that of a backslash in the tokens: what follows it
is no name, or its command lies too deep. -/
def LocatesError (p : Parser) (ts : List Token) : Reading α → Prop
  | .ok _ _ => True
  | .error e _ => ∃ before after, ts = before ++ .backslash :: after ∧
      (e = missingName { p with line := p.line + newlines before } after ∨
        ∃ limit, e = .nestingTooDeep (p.line + newlines before) limit)

theorem LocatesError.behind {result : Reading α} (h : LocatesError q rest result)
    (read : List Token) (split : ts = read ++ rest) (line : q.line = p.line + newlines read)
    (f : α → β) : LocatesError p ts (Reading.map f result) := by
  cases result with
  | ok x q' => trivial
  | error e q' =>
    obtain ⟨before, after, rfl, located⟩ := h
    refine ⟨read ++ before, after, by rw [split, List.append_assoc], ?_⟩
    have counted : p.line + newlines (read ++ before) = q.line + newlines before := by
      rw [line, newlines_append, Nat.add_assoc]
    rw [counted]
    exact located

theorem readingInvariant_locatesError :
    ReadingInvariant (fun p ts result => ts.head? = some .backslash → LocatesError p ts result)
      fun p _ _ ts => LocatesError p ts where
  noBackslash p ts noBackslash begins := by
    obtain ⟨rest, same⟩ := List.head?_eq_some_iff.mp begins
    exact absurd same (noBackslash rest)
  noName p ts _ _ := ⟨[], ts, rfl, .inl rfl⟩
  tooDeep p name ts _ _ := ⟨[], .word name :: ts, rfl, .inr ⟨p.maxDepth, rfl⟩⟩
  braces p name ts result _ h _ := by
    have inside : LocatesError p (.backslash :: .word name :: .leftBrace :: ts) _ :=
      h.behind [.backslash, .word name, .leftBrace] rfl rfl id
    cases result with
    | ok read q => trivial
    | error e q => exact inside
  delimited _ _ _ _ _ _ := trivial
  bare _ _ _ _ _ _ _ := trivial
  ended _ _ _ := trivial
  interrupted _ _ _ _ _ := trivial
  closed _ _ _ _ := trivial
  nested p name line ts node rest q result read _ h := by
    obtain ⟨consumed, split, line⟩ := command_consumed read
    exact h.behind consumed split line _
  refused _ _ _ _ _ _ h := h rfl
  blank p name line s ts result h := h.behind [.space s] rfl rfl _
  text p name line t ts result isText h :=
    h.behind [t] rfl (by simp [Token.newlineCount_of_text (.inr isText)]) _

theorem nodes_locatesError (p : Parser) (ts : List Token) : LocatesError p ts (p.nodes ts) := by
  refine nodes_induction ?nil ?command ?refused ?space ?blankLine ?text p ts
  case nil => exact fun p => trivial
  case command =>
    intro p ts node rest q result read h
    obtain ⟨consumed, split, line⟩ := command_consumed read
    exact h.behind consumed split line _
  case refused =>
    intro p ts e q refused
    have located := readingInvariant_locatesError.command p (.backslash :: ts) rfl
    rwa [refused] at located
  case space => exact fun p s ts _ h => h.behind [.space s] rfl rfl _
  case blankLine => exact fun p s ts _ h => h.behind [.blankLine s] rfl rfl _
  case text =>
    intro p t ts _ isText h
    exact h.behind [t] rfl (by simp [Token.newlineCount_of_text isText]) _

/-- Only a backslash at the end of the tokens is not followed by a token. -/
theorem LocatesError.backslash_last {e : ParseError}
    (h : LocatesError p ts (.error e q : Reading α)) (changed : e.beforeBlankLine ≠ e) :
    ∃ before, ts = before ++ [.backslash] ∧
      e = .missingCommandName (p.line + newlines before) "end of input" := by
  obtain ⟨before, after, split, rfl | ⟨limit, rfl⟩⟩ := h
  · cases after with
    | nil => exact ⟨before, split, rfl⟩
    | cons t after =>
      have other : t.describe ≠ "end of input" := t.describe_ne_endOfInput
      exact absurd (by simp [missingName, ParseError.beforeBlankLine, other]) changed
  · exact absurd rfl changed

/-! ## Piece by piece -/

/-- The tokens are read up to the last one: a paragraph ends with them, or in front of a
brace or a blank line, which is consumed and becomes a text or a space. -/
inductive ReadsThrough : Parser → List Token → List Node → Parser → Prop where
  /-- Nothing is left behind the last piece. -/
  | last {p q : Parser} {ts : List Token} {nodes : List Node}
      (read : p.paragraph ts = .ok (nodes, []) q) : ReadsThrough p ts nodes q
  /-- The reading goes on behind the token at which a piece ends. -/
  | more {p q q' : Parser} {piece rest : List Token} {t : Token} {nodes nodes' : List Node}
      (read : p.paragraph (piece ++ t :: rest) = .ok (nodes, t :: rest) q)
      (others : ReadsThrough (q.advance t) rest nodes' q') :
      ReadsThrough p (piece ++ t :: rest)
        (nodes ++ (if t.isBlankLine then .space else .text t.text) :: nodes') q'

theorem paragraph_keepsNesting (p : Parser) (ts : List Token) :
    KeepsNesting p ts (p.paragraph ts) := by
  refine paragraph_induction ?nil ?stopped ?command ?refused ?space ?text p ts
  case nil => exact fun p => ⟨rfl, rfl, List.suffix_refl _⟩
  case stopped => exact fun p t ts _ => ⟨rfl, rfl, List.suffix_refl _⟩
  case command =>
    intro p ts node rest q result read h
    obtain ⟨limit, depth, ends⟩ := command_keepsNesting read
    exact h.map_before limit depth ends
  case refused => exact fun _ _ _ _ _ => trivial
  case space => exact fun p s ts _ h => h.map_before rfl rfl (List.suffix_cons _ ts)
  case text => exact fun p t ts _ _ h => h.map_before rfl rfl (List.suffix_cons _ ts)

/-- No token is left when all nodes have been read. -/
theorem nodes_readsThrough {nodes : List Node} (read : p.nodes ts = .ok nodes q) :
    ReadsThrough p ts nodes q := by
  -- What is left behind a piece is shorter, so the induction is on the length.
  induction len : ts.length using Nat.strongRecOn generalizing p ts nodes with
  | ind n ih =>
    subst len
    rw [nodes_eq] at read
    have ends := paragraph_keepsNesting p ts
    cases piece : p.paragraph ts with
    | error e q' =>
      rw [piece] at read
      cases read
    | ok first q' =>
      obtain ⟨nodes', rest⟩ := first
      rw [piece] at read ends
      cases rest with
      | nil =>
        cases read
        exact .last piece
      | cons t rest =>
        obtain ⟨-, -, consumed, rfl⟩ := ends
        obtain ⟨after, others, rfl⟩ := Reading.map_eq_ok.mp read
        exact .more piece (ih rest.length (by simp; omega) others rfl)

/-! ## Blocks and documents -/

/-- The errors of a document and of a block at a backslash that stands right in front of a
blank line. -/
def ErrorsDiffer (p : Parser) (ts : List Token) (e e' : ParseError) : Prop :=
  ∃ before s after, ts = before ++ .backslash :: .blankLine s :: after ∧
    e = .missingCommandName (p.line + newlines before) "end of input" ∧
    e' = .missingCommandName (p.line + newlines before) "a blank line"

theorem ErrorsDiffer.behind {e e' : ParseError} (h : ErrorsDiffer q rest e e') {read : List Token}
    (line : q.line = p.line + newlines read) : ErrorsDiffer p (read ++ rest) e e' := by
  obtain ⟨before, s, after, rfl, rfl, rfl⟩ := h
  have counted : q.line + newlines before = p.line + newlines (read ++ before) := by
    rw [line, newlines_append, Nat.add_assoc]
  exact ⟨read ++ before, s, after, by rw [List.append_assoc], by rw [counted], by rw [counted]⟩

/-- The nodes of all tokens are those of the groups between the blank lines, each of which
becomes a space. -/
theorem nodes_eq_intercalate (p : Parser) (ts : List Token) :
    match p.readGroups ts with
    | .ok groups q =>
      groups ≠ [] ∧ p.nodes ts = .ok ([Node.space].intercalate (groups.map Group.nodes)) q
    | .error e q => ∃ e', p.nodes ts = .error e' q ∧ (e' = e ∨ ErrorsDiffer p ts e e') := by
  induction ts using paragraphs_induction generalizing p with
  | last group noBlankLine =>
    rw [readGroups_of_noBlankLine noBlankLine, readGroup]
    cases p.nodes group with
    | ok nodes q => exact ⟨List.cons_ne_nil _ _, by simp⟩
    | error e q => exact ⟨e, rfl, .inl rfl⟩
  | more group s rest noBlankLine ih =>
    rw [readGroups_append noBlankLine, readGroup, nodes_append_blankLine]
    have located := nodes_locatesError p group
    have keeps := nodes_keeps p group
    cases first : p.nodes group with
    | error e q =>
      -- Only a backslash at the very end of the group sees the blank line.
      rw [first] at located
      refine ⟨e.beforeBlankLine, rfl, ?_⟩
      by_cases same : e.beforeBlankLine = e
      · exact .inl same
      · obtain ⟨before, rfl, rfl⟩ := located.backslash_last same
        exact .inr ⟨before, s, rest, by simp, rfl, rfl⟩
    | ok nodes q =>
      rw [first] at keeps
      obtain ⟨-, -, line⟩ := keeps
      have others := ih (q.advance (.blankLine s))
      simp only [Reading.thenBlankLine]
      cases read : (q.advance (.blankLine s)).readGroups rest with
      | ok groups q' =>
        rw [read] at others
        obtain ⟨some, same⟩ := others
        refine ⟨List.cons_ne_nil _ _, ?_⟩
        rw [same, Reading.map_ok, List.map_cons,
          List.intercalate_cons_of_ne_nil (by simpa using some), List.append_assoc]
        rfl
      | error e q' =>
        rw [read] at others
        obtain ⟨e', same, equal | differ⟩ := others
        · exact ⟨e', by rw [same, Reading.map_error], .inl equal⟩
        · refine ⟨e', by rw [same, Reading.map_error], .inr ?_⟩
          rw [List.append_cons]
          refine differ.behind ?_
          show q.line + _ = _
          rw [line, newlines_append, newlines_cons, newlines_nil, Nat.add_zero, Nat.add_assoc]

/-- A block and a document that the same parser reads from the same tokens agree, wherever
blank lines stand in them. One can be read if and only if the other can, and the same parser
is left. A document holds the groups of tokens between the blank lines, each without the
spaces at its edges. A block holds the same nodes with one space for each blank line, and
loses the spaces at its own edges only; it reads its tokens up to the last one. Errors are
the same but for a backslash right in front of a blank line, which a document takes for the
end of what it reads. -/
theorem block_agrees_document (p : Parser) (ts : List Token) :
    match p.readGroups ts with
    | .ok groups q =>
      groups.length = (splitParagraphs ts).length ∧
        groups.length = ts.countP Token.isBlankLine + 1 ∧
        p.document ts = .ok ⟨groups.map fun group => ⟨trimSpaces group.nodes⟩⟩ q ∧
        p.block ts = .ok ⟨trimSpaces ([Node.space].intercalate (groups.map Group.nodes))⟩ q ∧
        q.depth = p.depth ∧ q.line = p.line + newlines ts ∧
        ReadsThrough p ts ([Node.space].intercalate (groups.map Group.nodes)) q
    | .error e q =>
      p.document ts = .error e q ∧
        ∃ e', p.block ts = .error e' q ∧ (e' = e ∨ ErrorsDiffer p ts e e') := by
  have joined := nodes_eq_intercalate p ts
  have trimmed := document_eq_map_readGroups p ts
  have whole := block_eq_map p ts
  cases read : p.readGroups ts with
  | ok groups q =>
    rw [read] at joined trimmed
    obtain ⟨-, nodes⟩ := joined
    have keeps := nodes_keeps p ts
    rw [nodes] at whole keeps
    obtain ⟨-, depth, line⟩ := keeps
    obtain ⟨count, blankLines⟩ := readGroups_length read
    exact ⟨count, blankLines, trimmed, whole, depth, line, nodes_readsThrough nodes⟩
  | error e q =>
    rw [read] at joined trimmed
    obtain ⟨e', nodes, differ⟩ := joined
    rw [nodes] at whole
    exact ⟨trimmed, e', whole, differ⟩

/-- A document ends its paragraph behind the backslash, a block goes on to the blank line. -/
example :
    let p := Parser.mk 200 0 1 []
    let ts := [Token.word "a", .backslash, .blankLine "\n\n", .word "b"]
    p.document ts = .error (.missingCommandName 1 "end of input") p ∧
      p.block ts = .error (.missingCommandName 1 "a blank line") p := by
  decide +kernel

end Parser

end TexMarkup
