import TexMarkup.Proofs.Parser.Reading

/-!
# Lines and paragraphs

A reading that succeeds goes on by as many lines as the tokens that it has consumed
hold newlines. A document is read paragraph by paragraph, so a blank line cuts its
reading in two.

## Main definitions

* `newlines`: how many lines some tokens end.
* `Parser.paragraphs`: the reading of a document as a list of paragraphs.

## Main results

* `Parser.command_line`, `Parser.paragraphs_keeps`: lines are counted by the newlines of
  the tokens.
* `Parser.paragraphs_append_blankLine`: the paragraphs on both sides of a blank line are
  read one after the other.
-/

namespace TexMarkup

/-- How many lines the tokens end. -/
def newlines : List Token → Nat
  | [] => 0
  | t :: ts => t.newlineCount + newlines ts

@[simp] theorem newlines_nil : newlines [] = 0 := rfl

@[simp] theorem newlines_cons (t : Token) (ts : List Token) :
    newlines (t :: ts) = t.newlineCount + newlines ts := rfl

@[simp] theorem newlines_append (ts ts' : List Token) :
    newlines (ts ++ ts') = newlines ts + newlines ts' := by
  induction ts with
  | nil => rw [List.nil_append, newlines_nil, Nat.zero_add]
  | cons t ts ih => rw [List.cons_append, newlines_cons, newlines_cons, ih, Nat.add_assoc]

/-- Only blanks have newlines. -/
theorem Token.newlineCount_of_isArgumentText {t : Token} (isText : t.isArgumentText = true) :
    t.newlineCount = 0 := by
  cases t with
  | blankLine s => cases isText
  | space s => cases isText
  | _ => rfl

/-- Neither a text nor a brace that becomes one ends a line. -/
theorem Token.newlineCount_of_text {t : Token}
    (isText : t = .rightBrace ∨ t.isArgumentText = true) :
    t.newlineCount = 0 := by
  rcases isText with rfl | isText
  · rfl
  · exact Token.newlineCount_of_isArgumentText isText

namespace Parser

variable {α β : Type} {p : Parser} {ts ts' rest : List Token}

/-! ## Lines -/

/-- Where a reading succeeds, its line has gone on by the newlines of what it has
consumed. -/
def CountsLines (p : Parser) (ts : List Token) : Reading (α × List Token) → Prop
  | .ok read q => q.line + newlines read.2 = p.line + newlines ts
  | .error _ _ => True

theorem CountsLines.map_before {q : Parser} {node : Node}
    {result : Reading (List Node × List Token)} (h : CountsLines q rest result)
    (counted : q.line + newlines rest = p.line + newlines ts) :
    CountsLines p ts (Reading.map (before node) result) := by
  cases result with
  | error e q' => trivial
  | ok read q' => exact h.trans counted

/-- Every reading counts the newlines of the tokens that it takes. -/
theorem readingInvariant_countsLines :
    ReadingInvariant CountsLines fun p _ _ ts => CountsLines p ts where
  noBackslash _ _ _ := trivial
  noName _ _ _ := trivial
  tooDeep _ _ _ _ := trivial
  braces p name ts result _ h := by
    cases result with
    | error e q => trivial
    | ok read q => exact h.trans (by simp [enter, Token.newlineCount])
  delimited p name s ts _ := by simp [CountsLines, advance, Token.newlineCount, Nat.add_assoc]
  bare p name ts _ _ _ := by simp [CountsLines, Token.newlineCount]
  ended _ _ _ := rfl
  interrupted _ _ _ _ _ := rfl
  closed _ _ _ ts := by simp [CountsLines, Token.newlineCount]
  nested _ _ _ _ _ _ _ _ _ command h := h.map_before command
  refused _ _ _ _ _ _ _ := trivial
  blank _ _ _ s ts _ h := h.map_before (by simp [advance, Nat.add_assoc])
  text _ _ _ _ ts _ isText h :=
    h.map_before (by rw [newlines_cons, Token.newlineCount_of_isArgumentText isText, Nat.zero_add])

theorem command_line {node : Node} {q : Parser} (read : p.command ts = .ok (node, rest) q) :
    q.line + newlines rest = p.line + newlines ts := by
  have counted := readingInvariant_countsLines.command p ts
  rwa [read] at counted

/-- A command takes some tokens from the front and goes on by their newlines. -/
theorem command_consumed {node : Node} {q : Parser} (read : p.command ts = .ok (node, rest) q) :
    ∃ consumed, ts = consumed ++ rest ∧ q.line = p.line + newlines consumed := by
  obtain ⟨-, -, consumed, split⟩ := command_keepsNesting read
  refine ⟨consumed, split.symm, ?_⟩
  have counted := command_line read
  rw [← split, newlines_append, ← Nat.add_assoc] at counted
  exact Nat.add_right_cancel counted

/-- Where a reading of all tokens succeeds, it ends at the depth and under the limit at
which it began, on the line to which the tokens lead. -/
def Keeps (p : Parser) (ts : List Token) : Reading α → Prop
  | .ok _ q => q.maxDepth = p.maxDepth ∧ q.depth = p.depth ∧ q.line = p.line + newlines ts
  | .error _ _ => True

/-- One more node in front changes nothing but the line. -/
theorem Keeps.map {q : Parser} {f : α → β} {result : Reading α} (h : Keeps q rest result)
    (limit : q.maxDepth = p.maxDepth) (depth : q.depth = p.depth)
    (counted : q.line + newlines rest = p.line + newlines ts) :
    Keeps p ts (Reading.map f result) := by
  cases result with
  | error e q' => trivial
  | ok x q' => exact ⟨h.1.trans limit, h.2.1.trans depth, h.2.2.trans counted⟩

/-- A group of tokens is read as a whole, and the depth is what it was. -/
theorem nodes_keeps (p : Parser) (ts : List Token) : Keeps p ts (p.nodes ts) := by
  refine nodes_induction ?nil ?command ?refused ?space ?blankLine ?text p ts
  case nil => exact fun p => ⟨rfl, rfl, rfl⟩
  case command =>
    intro p ts node rest q result read h
    obtain ⟨limit, depth, -⟩ := command_keepsNesting read
    exact h.map limit depth (command_line read)
  case refused => exact fun _ _ _ _ _ => trivial
  case space => exact fun p s ts _ h => h.map rfl rfl (by simp [advance, Nat.add_assoc])
  case blankLine => exact fun p s ts _ h => h.map rfl rfl (by simp [advance, Nat.add_assoc])
  case text =>
    intro p t ts _ isText h
    exact h.map rfl rfl (by rw [newlines_cons, Token.newlineCount_of_text isText, Nat.zero_add])

/-- A block is made of the nodes of its group without the spaces at its edges. -/
theorem block_eq_map (p : Parser) (ts : List Token) :
    p.block ts = Reading.map (fun ns => ⟨trimSpaces ns⟩) (p.nodes ts) := by
  rw [block]
  cases p.nodes ts <;> rfl

theorem block_keeps (p : Parser) (ts : List Token) : Keeps p ts (p.block ts) := by
  rw [block_eq_map]
  exact (nodes_keeps p ts).map rfl rfl rfl

/-! ## Paragraphs -/

/-- The reading of a document as a list of paragraphs. -/
def paragraphs (p : Parser) (ts : List Token) : Reading (List Paragraph) :=
  p.groups (splitParagraphs ts) (ts.filter Token.isBlankLine)

/-- A document is made of all its paragraphs. -/
theorem document_eq_map (p : Parser) (ts : List Token) :
    p.document ts = Reading.map Document.mk (p.paragraphs ts) := by
  rw [document, paragraphs]
  cases p.groups (splitParagraphs ts) (ts.filter Token.isBlankLine) <;> rfl

theorem filter_isBlankLine {group : List Token}
    (noBlankLine : ∀ t ∈ group, t.isBlankLine = false) : group.filter Token.isBlankLine = [] :=
  List.filter_eq_nil_iff.mpr (by simpa using noBlankLine)

/-- The last paragraph has no blank line after it. -/
theorem paragraphs_of_noBlankLine {group : List Token}
    (noBlankLine : ∀ t ∈ group, t.isBlankLine = false) :
    p.paragraphs group = Reading.map (fun paragraph => [paragraph]) (p.block group) := by
  rw [paragraphs, splitParagraphs_of_noBlankLine noBlankLine, filter_isBlankLine noBlankLine,
    groups]
  cases p.block group <;> rfl

/-- The reading goes on after a paragraph and the blank line that ends it. -/
theorem paragraphs_block_append {group : List Token}
    (noBlankLine : ∀ t ∈ group, t.isBlankLine = false) (s : String) :
    p.paragraphs (group ++ .blankLine s :: rest) =
      match p.block group with
      | .ok paragraph q =>
        Reading.map (paragraph :: ·) ((q.advance (.blankLine s)).paragraphs rest)
      | .error e q => .error e q := by
  rw [paragraphs, splitParagraphs_append_blankLine noBlankLine, List.filter_append,
    filter_isBlankLine noBlankLine, List.nil_append, List.filter_cons_of_pos rfl, groups]
  cases p.block group with
  | error e q => rfl
  | ok paragraph q =>
    simp only [List.tail_cons, paragraphs]
    cases (q.advance (.blankLine s)).groups (splitParagraphs rest)
      (rest.filter Token.isBlankLine) <;> rfl

/-- The paragraphs on both sides of a blank line are read one after the other. -/
theorem paragraphs_append_blankLine (p : Parser) (ts : List Token) (s : String) (ts' : List Token) :
    p.paragraphs (ts ++ .blankLine s :: ts') =
      match p.paragraphs ts with
      | .ok paragraphs q =>
        Reading.map (paragraphs ++ ·) ((q.advance (.blankLine s)).paragraphs ts')
      | .error e q => .error e q := by
  induction ts using paragraphs_induction generalizing p with
  | last group noBlankLine =>
    rw [paragraphs_block_append noBlankLine, paragraphs_of_noBlankLine noBlankLine]
    cases p.block group <;> rfl
  | more group s' rest noBlankLine ih =>
    rw [List.append_assoc, List.cons_append, paragraphs_block_append noBlankLine,
      paragraphs_block_append noBlankLine]
    cases p.block group with
    | error e q => rfl
    | ok paragraph q =>
      simp only [ih]
      cases (q.advance (.blankLine s')).paragraphs rest with
      | error e q' => rfl
      | ok paragraphs q' =>
        simp only [Reading.map_ok]
        cases (q'.advance (.blankLine s)).paragraphs ts' <;> rfl

/-- Reading paragraphs counts all newlines, those of the blank lines between them too. -/
theorem paragraphs_keeps (p : Parser) (ts : List Token) : Keeps p ts (p.paragraphs ts) := by
  induction ts using paragraphs_induction generalizing p with
  | last group noBlankLine =>
    rw [paragraphs_of_noBlankLine noBlankLine]
    exact (block_keeps p group).map rfl rfl rfl
  | more group s rest noBlankLine ih =>
    rw [paragraphs_block_append noBlankLine]
    have first := block_keeps p group
    cases read : p.block group with
    | error e q => trivial
    | ok paragraph q =>
      rw [read] at first
      obtain ⟨limit, depth, line⟩ := first
      refine (ih (q.advance (.blankLine s))).map limit depth ?_
      simp only [advance, line, newlines_append, newlines_cons, Nat.add_assoc]

end Parser

end TexMarkup
