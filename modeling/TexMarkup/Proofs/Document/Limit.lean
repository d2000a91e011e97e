import TexMarkup.Proofs.Document.Canonical
import TexMarkup.Proofs.Lint.Line

/-!
# The nesting limit

A text under a lower nesting limit gives the same document or an error, never another
document. The error is that of the first command that lies too deep, unless the text cannot
be read anyway and its own error comes first.

## Main definitions

* `Parser.withLimit`: a parser under another limit.

## Main results

* `Parser.document_withLimit`: what can be read can be read under a higher limit.
* `Document.nestsWithin_iff`: the depth of a document is seen in the commands that a walk meets.
* `Readable.openLists_le`: behind tokens that can be read no more lists are open than allowed.
* `parseDocument_limit`: two limits for the same text.
-/

namespace TexMarkup

/-! ## A higher limit -/

namespace Parser

variable {p q : Parser} {ts : List Token} {limit : Nat}

/-- The parser under another limit. -/
def withLimit (p : Parser) (limit : Nat) : Parser :=
  { p with maxDepth := limit }

theorem readingInvariant_withLimit :
    ReadingInvariant
      (fun p ts result => ∀ limit read q, p.maxDepth ≤ limit → result = .ok read q →
        (p.withLimit limit).command ts = .ok read (q.withLimit limit))
      (fun p name line ts result => ∀ limit read q, p.maxDepth ≤ limit → result = .ok read q →
        (p.withLimit limit).arguments name line ts = .ok read (q.withLimit limit)) where
  noBackslash _ _ _ _ _ _ _ := nofun
  noName _ _ _ _ _ _ _ := nofun
  tooDeep _ _ _ _ _ _ _ _ := nofun
  braces p name ts result fits h limit read q higher ok := by
    cases result with
    | error e q' => cases ok
    | ok inner q' =>
      cases ok
      rw [command_leftBrace (p := p.withLimit limit)
        fun deep => fits (Nat.lt_of_le_of_lt higher deep)]
      exact congrArg (asCommand name) (h limit inner q' higher rfl)
  delimited p name s ts fits limit read q higher ok := by
    cases ok
    exact command_space (p := p.withLimit limit)
      (fun deep => fits (Nat.lt_of_le_of_lt higher deep)) s
  bare p name ts fits noBrace noSpace limit read q higher ok := by
    cases ok
    exact command_bare (p := p.withLimit limit)
      (fun deep => fits (Nat.lt_of_le_of_lt higher deep)) noBrace noSpace
  ended p name line limit read q _ ok := by
    cases ok
    exact arguments_nil
  interrupted p name line s ts limit read q _ ok := by
    cases ok
    exact arguments_blankLine s
  closed p name line ts limit read q _ ok := by
    cases ok
    exact arguments_rightBrace
  nested p name line ts node rest q result read commanded h limit listed q' higher ok := by
    obtain ⟨others, rfl, rfl⟩ := Reading.map_eq_ok.mp ok
    have kept := (command_keepsNesting read).1
    rw [arguments_backslash, commanded limit _ _ higher rfl]
    exact congrArg (Reading.map (before node)) (h limit others _ (kept ▸ higher) rfl)
  refused _ _ _ _ _ _ _ _ _ _ _ := nofun
  blank p name line s ts result h limit read q higher ok := by
    obtain ⟨others, rfl, rfl⟩ := Reading.map_eq_ok.mp ok
    rw [arguments_space]
    exact congrArg (Reading.map (before .space)) (h limit others _ higher rfl)
  text p name line t ts result isText h limit read q higher ok := by
    obtain ⟨others, rfl, rfl⟩ := Reading.map_eq_ok.mp ok
    rw [arguments_text isText]
    exact congrArg (Reading.map (before (.text t.text))) (h limit others _ higher rfl)

theorem nodes_withLimit {nodes : List Node} (higher : p.maxDepth ≤ limit)
    (read : p.nodes ts = .ok nodes q) :
    (p.withLimit limit).nodes ts = .ok nodes (q.withLimit limit) := by
  revert read higher nodes q
  refine nodes_induction (motive := fun p ts result => ∀ {q nodes}, p.maxDepth ≤ limit →
      result = .ok nodes q → (p.withLimit limit).nodes ts = .ok nodes (q.withLimit limit))
    ?nil ?command ?refused ?space ?blankLine ?text p ts
  case nil =>
    rintro p _ _ _ ⟨⟩
    exact nodes_nil
  case command =>
    intro p ts node rest q result read h q' nodes higher ok
    obtain ⟨others, rfl, rfl⟩ := Reading.map_eq_ok.mp ok
    have kept := (command_keepsNesting read).1
    rw [nodes_backslash, readingInvariant_withLimit.command p _ limit _ _ higher read]
    exact congrArg (Reading.map (node :: ·)) (h (kept ▸ higher) rfl)
  case refused => exact fun _ _ _ _ _ _ _ => nofun
  case space =>
    intro p s ts result h q nodes higher ok
    obtain ⟨others, rfl, rfl⟩ := Reading.map_eq_ok.mp ok
    rw [nodes_space]
    exact congrArg (Reading.map (.space :: ·)) (h higher rfl)
  case blankLine =>
    intro p s ts result h q nodes higher ok
    obtain ⟨others, rfl, rfl⟩ := Reading.map_eq_ok.mp ok
    rw [nodes_blankLine]
    exact congrArg (Reading.map (.space :: ·)) (h higher rfl)
  case text =>
    intro p t ts result isText h q nodes higher ok
    obtain ⟨others, rfl, rfl⟩ := Reading.map_eq_ok.mp ok
    rw [nodes_text isText]
    exact congrArg (Reading.map (.text t.text :: ·)) (h higher rfl)

theorem block_withLimit {paragraph : Paragraph} (higher : p.maxDepth ≤ limit)
    (read : p.block ts = .ok paragraph q) :
    (p.withLimit limit).block ts = .ok paragraph (q.withLimit limit) := by
  rw [block_eq_map] at read ⊢
  obtain ⟨nodes, whole, rfl⟩ := Reading.map_eq_ok.mp read
  rw [nodes_withLimit higher whole, Reading.map_ok]

theorem paragraphs_withLimit {paragraphs : List Paragraph} (higher : p.maxDepth ≤ limit)
    (read : p.paragraphs ts = .ok paragraphs q) :
    (p.withLimit limit).paragraphs ts = .ok paragraphs (q.withLimit limit) := by
  induction ts using paragraphs_induction generalizing p paragraphs with
  | last group noBlankLine =>
    rw [paragraphs_of_noBlankLine noBlankLine] at read ⊢
    obtain ⟨paragraph, whole, rfl⟩ := Reading.map_eq_ok.mp read
    rw [block_withLimit higher whole, Reading.map_ok]
  | more group s rest noBlankLine ih =>
    rw [paragraphs_block_append noBlankLine] at read ⊢
    have keeps := block_keeps p group
    cases first : p.block group with
    | error e q' =>
      rw [first] at read
      cases read
    | ok paragraph q' =>
      rw [first] at read keeps
      obtain ⟨others, after, rfl⟩ := Reading.map_eq_ok.mp read
      rw [block_withLimit higher first]
      exact congrArg (Reading.map (paragraph :: ·)) (ih (keeps.1 ▸ higher) after)

/-- What can be read under a limit is read in the same way under a higher one. -/
theorem document_withLimit {document : Document} (higher : p.maxDepth ≤ limit)
    (read : p.document ts = .ok document q) :
    (p.withLimit limit).document ts = .ok document (q.withLimit limit) := by
  rw [document_eq_map] at read ⊢
  obtain ⟨paragraphs, whole, rfl⟩ := Reading.map_eq_ok.mp read
  rw [paragraphs_withLimit higher whole, Reading.map_ok]

end Parser

/-! ## Depths and levels -/

namespace Node

mutual

theorem depth_le_iff (above limit : Nat) :
    (node : Node) → (node.depth ≤ limit ↔ ∀ c ∈ commands above [node], c.2 < above + limit)
  | text content => by simp [depth, commands_text]
  | space => by simp [depth, commands_space]
  | command name children => by
    rw [depth, commands_command, List.forall_mem_cons]
    cases limit with
    | zero => simp
    | succ limit =>
      have below := depthList_le_iff_commands (above + 1) limit children
      rw [Nat.add_assoc, Nat.add_comm 1 limit] at below
      rw [Nat.add_le_add_iff_right, below]
      exact (and_iff_right (by simp)).symm

/-- As deep as the trees are, so many commands are around the innermost commands in them,
these included. -/
theorem depthList_le_iff_commands (above limit : Nat) :
    (nodes : List Node) →
      (depthList nodes ≤ limit ↔ ∀ c ∈ commands above nodes, c.2 < above + limit)
  | [] => by simp [depthList]
  | node :: nodes => by
    rw [depthList, Nat.max_le, depth_le_iff above limit node,
      depthList_le_iff_commands above limit nodes, commands_cons above node nodes,
      List.forall_mem_append]

end

end Node

/-- The depth of a document is seen in the commands that a walk meets. -/
theorem Document.nestsWithin_iff {document : Document} {limit : Nat} :
    document.NestsWithin limit ↔ ∀ c ∈ document.commands, c.2 < limit := by
  have depths := Node.depthList_le_iff_commands 0 limit
    (document.paragraphs.flatMap Paragraph.nodes)
  rw [Nat.zero_add, Node.depthList_le_iff] at depths
  rw [commands, ← depths, NestsWithin]
  simp only [List.forall_mem_flatMap]

/-! ## Backslashes that cannot be read -/

section

variable {m M : Nat} {read ts before after earlier : List Token} {name : String}

theorem Readable.mono {count count' : Nat} (h : Readable m ts count) (fewer : count' ≤ count) :
    Readable m ts count' :=
  fun before after split short => h before after split (Nat.lt_of_lt_of_le short fewer)

theorem Offends.mono (h : Offends M before after) (lower : m ≤ M) : Offends m before after :=
  h.imp_right (Nat.lt_of_le_of_lt lower)

theorem exists_name_of_not_offends (fits : ¬ Offends m before after) :
    ∃ name rest, after = .word name :: rest := by
  by_contra none
  exact fits (.inl fun name rest same => none ⟨name, rest, same⟩)

/-- The limit does not matter to a name that is missing. -/
theorem offence_of_noName (before : List Token) (noName : ∀ name rest, after ≠ .word name :: rest) :
    ∃ found, ∀ limit, offence limit before after =
      .missingCommandName (1 + newlines before) found := by
  have same (limit : Nat) : offence limit before after =
      Machine.missingName { maxDepth := limit, line := 1 + newlines before } after := by
    rw [offence]
    exact fun name rest same => noName name rest same
  simp only [same, Machine.missingName.eq_def]
  split <;> exact ⟨_, fun _ => rfl⟩

/-- Behind tokens that can be read no more lists are open than allowed. -/
theorem Readable.openLists_le (h : Readable m (read.reverse ++ ts) read.length) :
    (openLists read).length ≤ m := by
  fun_induction openLists read generalizing ts with
  | case1 name read ih =>
    -- The backslash in front of the list can be read, so there is room for the list.
    have fits := h read.reverse (.word name :: .leftBrace :: ts) (by simp)
      (by simp only [List.length_reverse, List.length_cons]; omega)
    rw [Offends, not_or, List.reverse_reverse] at fits
    exact Nat.not_lt.mp fits.2
  | case2 read ih =>
    rw [List.reverse_cons, List.append_assoc] at h
    rw [List.length_tail]
    exact Nat.le_trans (Nat.sub_le _ _) (ih (h.mono (Nat.le_succ _)))
  | case3 s read => exact Nat.zero_le m
  | case4 t read _ _ _ ih =>
    rw [List.reverse_cons, List.append_assoc] at h
    exact ih (h.mono (Nat.le_succ _))
  | case5 => exact Nat.zero_le m

theorem commandStarts_cons (read : List Token) (t : Token) (ts : List Token) :
    ∃ here, commandStarts read (t :: ts) = here ++ commandStarts (t :: read) ts ∧
      ∀ start ∈ here, start.before = read.reverse := by
  rw [commandStarts.eq_def]
  split
  · rename_i name rest same
    obtain ⟨rfl, rfl⟩ := List.cons_eq_cons.mp same
    exact ⟨[⟨read.reverse, name⟩], rfl, by simp⟩
  · rename_i same
    obtain ⟨rfl, rfl⟩ := List.cons_eq_cons.mp same
    exact ⟨[], rfl, by simp⟩
  · cases ‹t :: ts = []›

/-- A command begins at every backslash that has a word after it. -/
theorem commandStarts_split (read before : List Token) (name : String) (after : List Token) :
    ∃ earlier later, commandStarts read (before ++ .backslash :: .word name :: after) =
        earlier ++ ⟨read.reverse ++ before, name⟩ :: later ∧
      ∀ start ∈ earlier, start.before.length < read.length + before.length := by
  induction before generalizing read with
  | nil => exact ⟨[], _, by rw [List.append_nil]; rfl, by simp⟩
  | cons t before ih =>
    obtain ⟨here, split, first⟩ :=
      commandStarts_cons read t (before ++ .backslash :: .word name :: after)
    obtain ⟨earlier, later, split', short⟩ := ih (t :: read)
    refine ⟨here ++ earlier, later, ?_, ?_⟩
    · rw [List.cons_append, split, split', List.append_assoc, List.reverse_cons, List.append_assoc,
        List.singleton_append]
    · rw [List.forall_mem_append]
      constructor
      · intro start mem
        rw [first start mem, List.length_reverse, List.length_cons]
        omega
      · intro start mem
        have := short start mem
        simp only [List.length_cons] at this ⊢
        omega

/-- A backslash is known by the number of tokens in front of it. -/
theorem eq_of_splits {before' after' : List Token} (split : ts = before ++ .backslash :: after)
    (split' : ts = before' ++ .backslash :: after') (same : before'.length = before.length) :
    before' = before ∧ after' = after := by
  obtain ⟨rfl, others⟩ := List.append_inj (split'.symm.trans split) same
  exact ⟨rfl, (List.cons_eq_cons.mp others).2⟩

end

/-! ## Two limits -/

variable {text : String} {m M limit : Nat}

/-- What becomes of a text, told from its tokens: either every backslash can be read, and
each makes a command inside of those whose lists are open there, or the text has the error of
the first backslash that cannot be read. -/
theorem parseDocument_located (text : String) (limit : Nat) :
    match parseDocument text limit with
    | .ok document =>
      Readable limit (tokenize text) (tokenize text).length ∧
        document.commands =
          (commandStarts [] (tokenize text)).map fun start => (start.name, start.level)
    | .error e => ∃ before after, tokenize text = before ++ .backslash :: after ∧
        Offends limit before after ∧ Readable limit (tokenize text) before.length ∧
        e = offence limit before after := by
  have ran := Parser.document_run limit (tokenize text)
  have located := Machine.run_located limit (tokenize text)
  rw [parseDocument]
  cases read : Parser.document (Parser.mk limit 0 1 []) (tokenize text) with
  | ok document q =>
    rw [read] at ran
    rw [ran] at located
    exact ⟨located.1, Parser.document_commands read⟩
  | error e q =>
    rw [read] at ran
    rw [ran] at located
    exact located

/-- Under the limit the text has an error of nesting at the command whose backslash comes
behind the tokens. -/
def TooDeepAt (text : String) (limit : Nat) (before : List Token) : Prop :=
  (∃ name after, tokenize text = before ++ .backslash :: .word name :: after) ∧
    parseDocument text limit = .error (.nestingTooDeep (lineAt text (position before)) limit)

theorem tooDeepAt_of_offence {before after : List Token} {name : String}
    (split : tokenize text = before ++ .backslash :: .word name :: after)
    (failed : parseDocument text limit = .error (offence limit before (.word name :: after))) :
    TooDeepAt text limit before := by
  refine ⟨⟨name, after, split⟩, ?_⟩
  rw [failed, offence, lineAt_position split]

theorem parseDocument_of_le {document : Document} (lower : m ≤ M)
    (read : parseDocument text m = .ok document) : parseDocument text M = .ok document := by
  rw [parseDocument] at read ⊢
  cases found : Parser.document (Parser.mk m 0 1 []) (tokenize text) with
  | error e q =>
    rw [found] at read
    cases read
  | ok document' q =>
    rw [found] at read
    have raised : Parser.document (Parser.mk M 0 1 []) (tokenize text) = _ :=
      Parser.document_withLimit (p := Parser.mk m 0 1 []) lower found
    rw [raised]
    exact read

/-- Commands whose backslashes can be read lie inside of fewer others than are allowed. -/
theorem Readable.level_lt {ts : List Token} {count : Nat} {start : Start}
    (h : Readable m ts count) (mem : start ∈ commandStarts [] ts)
    (short : start.before.length < count) : start.level < m := by
  obtain ⟨after, split⟩ := in_of_mem_commandStarts mem
  have fits := h start.before _ split short
  rw [Offends, not_or, Nat.not_lt] at fits
  exact fits.2

/-- A document that is read under a limit has no command inside of too many others. -/
theorem nestsWithin_of_read {document : Document} (read : parseDocument text m = .ok document) :
    document.NestsWithin m := by
  have located := parseDocument_located text m
  rw [read] at located
  obtain ⟨readable, commands⟩ := located
  rw [Document.nestsWithin_iff, commands, List.forall_mem_map]
  intro start mem
  obtain ⟨after, split⟩ := in_of_mem_commandStarts mem
  refine readable.level_lt mem ?_
  rw [show tokenize text = _ from split, List.length_append, List.length_cons]
  omega

/-- A text that can be read under one limit but not under another has the error of a command
inside of as many others as the second limit allows. Fewer lie around the commands in front
of it. -/
theorem exists_tooDeepAt {document : Document} {e : ParseError}
    (read : parseDocument text M = .ok document) (failed : parseDocument text m = .error e) :
    ∃ earlier start later, commandStarts [] (tokenize text) = earlier ++ start :: later ∧
      (∀ other ∈ earlier, other.level < m) ∧ start.level = m ∧ TooDeepAt text m start.before := by
  have located := parseDocument_located text M
  rw [read] at located
  have below := parseDocument_located text m
  rw [failed] at below
  obtain ⟨before, after, split, offends, readable, rfl⟩ := below
  obtain ⟨name, rest, rfl⟩ := exists_name_of_not_offends (located.1 before after split
    (by rw [split, List.length_append, List.length_cons]; omega))
  -- Too many lists are open here, but not one more than too many: each was opened by a
  -- backslash that can be read.
  have level : Start.level ⟨before, name⟩ = m := by
    refine Nat.le_antisymm ?_ (Nat.lt_succ_iff.mp (offends.resolve_left fun none => none _ _ rfl))
    rw [split, ← List.reverse_reverse before] at readable
    rw [List.length_reverse] at readable
    exact readable.openLists_le
  obtain ⟨earlier, later, starts, short⟩ := commandStarts_split [] before name rest
  rw [← split, List.reverse_nil, List.nil_append] at starts
  have shallow : ∀ other ∈ earlier, other.level < m := fun other mem =>
    readable.level_lt (by rw [starts]; exact List.mem_append_left _ mem)
      (by simpa using short other mem)
  exact ⟨earlier, _, later, starts, shallow, level, tooDeepAt_of_offence split failed⟩

/-- A text that can be read under a limit gives the same document under a lower one if it
fits, and otherwise has the error of the first command inside of too many others. -/
theorem parseDocument_lower_ok {document : Document} (lower : m ≤ M)
    (read : parseDocument text M = .ok document) :
    (document.NestsWithin m → parseDocument text m = .ok document) ∧
      (¬ document.NestsWithin m → ∃ i start,
        document.commands.findIdx? (fun command => command.2 = m) = some i ∧
          (commandStarts [] (tokenize text))[i]? = some start ∧ TooDeepAt text m start.before) := by
  cases read' : parseDocument text m with
  | ok document' =>
    obtain rfl : document' = document :=
      Except.ok.inj ((parseDocument_of_le lower read').symm.trans read)
    exact ⟨fun _ => rfl, fun deep => absurd (nestsWithin_of_read read') deep⟩
  | error e =>
    obtain ⟨earlier, start, later, starts, shallow, level, tooDeep⟩ := exists_tooDeepAt read read'
    have located := parseDocument_located text M
    rw [read] at located
    have met : document.commands =
        earlier.map (fun start => (start.name, start.level)) ++ (start.name, m) ::
          later.map fun start => (start.name, start.level) := by
      rw [located.2, starts, List.map_append, List.map_cons, level]
    constructor
    · intro fits
      rw [Document.nestsWithin_iff, met, List.forall_mem_append, List.forall_mem_cons] at fits
      exact absurd fits.2.1 (Nat.lt_irrefl m)
    · intro _
      refine ⟨earlier.length, start, ?_, ?_, tooDeep⟩
      · have others : (earlier.map fun start => (start.name, start.level)).findIdx?
            (fun command => command.2 = m) = none := by
          rw [List.findIdx?_eq_none_iff, List.forall_mem_map]
          exact fun other mem => by simpa using Nat.ne_of_lt (shallow other mem)
        rw [met, List.findIdx?_append, others]
        simp [List.findIdx?_cons]
      · rw [starts, List.getElem?_append_right (Nat.le_refl _), Nat.sub_self]
        rfl

/-- A text that cannot be read under a limit cannot be read under a lower one either. Its
error is that of the same backslash, or that of a command in front of it. -/
theorem parseDocument_lower_error {e : ParseError} (lower : m ≤ M)
    (failed : parseDocument text M = .error e) :
    ∃ before after, tokenize text = before ++ .backslash :: after ∧ e = offence M before after ∧
      (parseDocument text m = .error (offence m before after) ∨
        ∃ earlier, earlier.length < before.length ∧ TooDeepAt text m earlier) := by
  have located := parseDocument_located text M
  rw [failed] at located
  obtain ⟨before, after, split, offends, readable, rfl⟩ := located
  refine ⟨before, after, split, rfl, ?_⟩
  have below := parseDocument_located text m
  cases failed' : parseDocument text m with
  | ok document =>
    rw [failed'] at below
    exact absurd (offends.mono lower) (below.1 before after split (by
      rw [split, List.length_append, List.length_cons]; omega))
  | error e =>
    rw [failed'] at below
    obtain ⟨earlier, after', split', offends', readable', rfl⟩ := below
    rcases Nat.lt_trichotomy earlier.length before.length with short | same | long
    · -- The backslash in front can be read under the higher limit, so a name follows it.
      obtain ⟨name, rest, rfl⟩ := exists_name_of_not_offends (readable earlier after' split' short)
      exact .inr ⟨earlier, short, tooDeepAt_of_offence split' failed'⟩
    · obtain ⟨rfl, rfl⟩ := eq_of_splits split split' same
      exact .inl rfl
    · exact absurd (offends.mono lower) (readable' before after split long)

/-- The nesting limit only filters texts. A text that can be read under a limit gives the
same document under a lower limit if the document fits in it. Otherwise it has an error of
nesting at the first command, in the order of the walk, that has as many commands around it
as the lower limit allows; the commands of the walk are those behind the backslashes of the
text, one by one. A text that cannot be read has an error under the lower limit too. A
missing name is still missing, unless a command in front of it lies too deep for the lower
limit; and where a command lies too deep, it does so under the lower limit, or one in front
of it does. -/
theorem parseDocument_limit (text : String) (lower : m ≤ M) :
    match parseDocument text M with
    | .ok document =>
      document.commands =
          (commandStarts [] (tokenize text)).map (fun start => (start.name, start.level)) ∧
        (document.NestsWithin m → parseDocument text m = .ok document) ∧
        (¬ document.NestsWithin m → ∃ i start,
          document.commands.findIdx? (fun command => command.2 = m) = some i ∧
            (commandStarts [] (tokenize text))[i]? = some start ∧ TooDeepAt text m start.before)
    | .error (.missingCommandName line found) =>
      ∃ before after, tokenize text = before ++ .backslash :: after ∧
        line = lineAt text (position before) ∧
        (parseDocument text m = .error (.missingCommandName line found) ∨
          ∃ earlier, earlier.length < before.length ∧ TooDeepAt text m earlier)
    | .error (.nestingTooDeep line limit) =>
      limit = M ∧ ∃ before, TooDeepAt text M before ∧ line = lineAt text (position before) ∧
        ∃ earlier, earlier.length ≤ before.length ∧ TooDeepAt text m earlier := by
  cases read : parseDocument text M with
  | ok document =>
    have located := parseDocument_located text M
    rw [read] at located
    exact ⟨located.2, parseDocument_lower_ok lower read⟩
  | error e =>
    obtain ⟨before, after, split, rfl, lowered⟩ := parseDocument_lower_error lower read
    by_cases named : ∃ name rest, after = .word name :: rest
    · obtain ⟨name, rest, rfl⟩ := named
      refine ⟨rfl, before, tooDeepAt_of_offence split read, (lineAt_position split).symm, ?_⟩
      rcases lowered with same | ⟨earlier, short, tooDeep⟩
      · exact ⟨before, Nat.le_refl _, tooDeepAt_of_offence split same⟩
      · exact ⟨earlier, Nat.le_of_lt short, tooDeep⟩
    · obtain ⟨found, missing⟩ := offence_of_noName before
        fun name rest same => named ⟨name, rest, same⟩
      rw [missing] at lowered ⊢
      exact ⟨before, after, split, (lineAt_position split).symm, lowered⟩

/-- The second command lies inside of the first, and is too deep for a limit of one. -/
theorem parseDocument_limit_nested :
    let text := "\\b\x7bx\n\\i\x7by\x7d\x7d \\u"
    1 ≤ 200 ∧ parseDocument text 2 = parseDocument text 200 ∧
      parseDocument text 1 = .error (.nestingTooDeep 2 1) := by
  intro text
  let document : Document := ⟨[⟨[.command "b" [.text "x", .space, .command "i" [.text "y"]],
    .space, .command "u" []]⟩]⟩
  have read : parseDocument text 200 = .ok document := by decide +kernel
  have two := parseDocument_limit text (show 2 ≤ 200 by decide)
  have one := parseDocument_limit text (show 1 ≤ 200 by decide)
  rw [read] at one two
  obtain ⟨-, fits, -⟩ := two
  obtain ⟨met, -, deep⟩ := one
  refine ⟨by decide, (fits (by decide)).trans read.symm, ?_⟩
  obtain ⟨i, start, first, begins, -, failed⟩ := deep (by decide)
  obtain rfl : 1 = i := Option.some.inj first
  have second : (commandStarts [] (tokenize text))[1]?.map
      (fun start => lineAt text (position start.before)) = some 2 := by decide +kernel
  rw [begins] at second
  have line : lineAt text (position start.before) = 2 := Option.some.inj second
  rw [failed, line]

end TexMarkup
