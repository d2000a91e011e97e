import Mathlib.Data.List.Forall2
import TexMarkup.Proofs.Parser.Group

/-!
# Braces that are left out

An argument list that is still open at the end of its paragraph is closed there, and the
close is noted. Writing the missing braces into the source instead does not change the
document. Each brace takes away one close, that of the innermost list which is still open.

## Main definitions

* `closingBraces`, `closeGroups`: closing braces, and tokens with closing braces at the end of
  each group between blank lines.
* `Parser.TakesBraces`: a reading that closes with braces what it closed by itself.
* `EndsIn`: nodes that end inside of commands.

## Main results

* `Parser.nodes_append_closingBraces`: the nodes of a group with closing braces at its end.
* `Parser.readGroups_closeGroups`: the same for all groups.
* `Parser.document_closeGroups`: the same for documents.
-/

namespace TexMarkup

/-- Some closing braces. -/
def closingBraces (count : Nat) : List Token :=
  List.replicate count .rightBrace

theorem isBlankLine_of_mem_closingBraces {t : Token} {count : Nat} (mem : t ∈ closingBraces count) :
    t.isBlankLine = false := by
  rw [List.eq_of_mem_replicate mem]
  rfl

/-- Closing braces behind the tokens make no other token stand in front. -/
theorem append_closingBraces_ne_cons {t : Token} {ts : List Token} (other : t ≠ .rightBrace)
    (noToken : ∀ rest, ts ≠ t :: rest) (count : Nat) (rest : List Token) :
    ts ++ closingBraces count ≠ t :: rest := by
  intro same
  rcases ts with _ | ⟨t', ts⟩
  · have mem : t ∈ closingBraces count := by
      rw [List.nil_append] at same
      rw [same]
      exact List.mem_cons_self
    exact other (List.eq_of_mem_replicate mem)
  · obtain ⟨rfl, -⟩ := List.cons_eq_cons.mp same
    exact noToken ts rfl

/-- The tokens with closing braces at the end of each group between blank lines, as many as
the numbers say. -/
def closeGroups : List Nat → List Token → List Token
  | counts, [] => closingBraces (counts.headD 0)
  | counts, .blankLine s :: ts =>
    closingBraces (counts.headD 0) ++ .blankLine s :: closeGroups counts.tail ts
  | counts, t :: ts => t :: closeGroups counts ts

/-- The group where some of its lists, the innermost ones, are closed by braces. -/
def Group.close (group : Group) (count : Nat) : Group :=
  { group with closes := group.closes.drop count }

/-- The nodes end inside of commands with these names, from the outermost one inwards. -/
inductive EndsIn : List Node → List String → Prop where
  /-- Every list of nodes ends outside of its commands. -/
  | outside (nodes : List Node) : EndsIn nodes []
  /-- The last node is a command, and its arguments end inside of the others. -/
  | inside (before : List Node) {name : String} {children : List Node} {names : List String}
      (ends : EndsIn children names) : EndsIn (before ++ [.command name children]) (name :: names)

section

variable {group rest : List Token} {count : Nat} {counts : List Nat}

theorem closeGroups_cons {t : Token} (noBlankLine : t.isBlankLine = false) (counts : List Nat)
    (ts : List Token) : closeGroups counts (t :: ts) = t :: closeGroups counts ts := by
  cases t with
  | blankLine s => exact absurd noBlankLine.symm Bool.false_ne_true
  | _ => rfl

/-- The last group has its braces at the end of the tokens. -/
theorem closeGroups_of_noBlankLine (noBlankLine : ∀ t ∈ group, t.isBlankLine = false) :
    closeGroups (count :: counts) group = group ++ closingBraces count := by
  induction group with
  | nil => rfl
  | cons t group ih =>
    obtain ⟨first, others⟩ := List.forall_mem_cons.mp noBlankLine
    rw [closeGroups_cons first, ih others, List.cons_append]

/-- Every other group has them in front of its blank line. -/
theorem closeGroups_append (noBlankLine : ∀ t ∈ group, t.isBlankLine = false) (s : String) :
    closeGroups (count :: counts) (group ++ .blankLine s :: rest) =
      group ++ closingBraces count ++ .blankLine s :: closeGroups counts rest := by
  induction group with
  | nil => rfl
  | cons t group ih =>
    obtain ⟨first, others⟩ := List.forall_mem_cons.mp noBlankLine
    rw [List.cons_append, closeGroups_cons first, ih others, List.cons_append, List.cons_append]

end

namespace Parser

variable {α : Type} {p q : Parser} {ts ts' : List Token}

/-- The parser with other closes noted so far. -/
def withCloses (p : Parser) (closes : List ImplicitClose) : Parser :=
  { p with implicitCloses := closes }

/-! ## Closing by braces -/

/-- A reading that leaves argument lists open, and does the same apart from its closes where
closing braces stand behind the tokens. Each brace closes the innermost list that is still
open; if there are more braces, they are left. -/
def TakesBraces (again : Parser → List Token → Reading (α × List Token)) (p : Parser)
    (ts : List Token) : Reading (α × List Token) → Prop
  | .error _ _ => True
  | .ok read q => ∃ left, q.implicitCloses = p.implicitCloses ++ left ∧ ∀ count closes,
      again (p.withCloses closes) (ts ++ closingBraces count) =
        .ok (read.1, read.2 ++ closingBraces (count - left.length))
          (q.withCloses (closes ++ left.drop count))

/-- A node in front that leaves no list open takes no brace. -/
theorem TakesBraces.map_before {again : Parser → List Token → Reading (List Node × List Token)}
    {result : Reading (List Node × List Token)} (h : TakesBraces again q ts result) (node : Node)
    (noted : q.implicitCloses = p.implicitCloses)
    (step : ∀ count closes, again (p.withCloses closes) (ts' ++ closingBraces count) =
      Reading.map (before node) (again (q.withCloses closes) (ts ++ closingBraces count))) :
    TakesBraces again p ts' (Reading.map (before node) result) := by
  cases result with
  | error e q' => trivial
  | ok read q' =>
    obtain ⟨left, noted', closed⟩ := h
    exact ⟨left, noted ▸ noted', fun count closes => by rw [step, closed]; rfl⟩

/-- A reading that leaves no list open takes no brace. -/
theorem TakesBraces.of_closed {again : Parser → List Token → Reading (α × List Token)} {x : α}
    {rest : List Token} (noted : q.implicitCloses = p.implicitCloses)
    (same : ∀ count closes, again (p.withCloses closes) (ts ++ closingBraces count) =
      .ok (x, rest ++ closingBraces count) (q.withCloses closes)) :
    TakesBraces again p ts (.ok (x, rest) q) := by
  refine ⟨[], by rw [noted, List.append_nil], fun count closes => ?_⟩
  rw [List.drop_nil, List.append_nil]
  exact same count closes

/-- The first brace closes the list, and the others are left to those further out. -/
theorem takesBraces_nil (p : Parser) (name : String) (line : Nat) :
    TakesBraces (fun p ts => p.arguments name line ts) p []
      (.ok ([], []) (p.closeImplicitly name line)) := by
  refine ⟨[⟨name, line⟩], rfl, fun count closes => ?_⟩
  cases count with
  | zero => exact arguments_nil
  | succ count =>
    show (p.withCloses closes).arguments name line (.rightBrace :: closingBraces count) = _
    rw [arguments_rightBrace]
    simp [withCloses, closeImplicitly]

/-- A command takes the braces that its list takes. -/
theorem TakesBraces.asCommand {name : String} {result : Reading (List Node × List Token)}
    (h : TakesBraces (fun q ts => q.arguments name p.line ts) p.enter ts result)
    (fits : ¬ p.maxDepth < p.depth + 1) :
    TakesBraces command p (.backslash :: .word name :: .leftBrace :: ts)
      (Parser.asCommand name result) := by
  cases result with
  | error e q => trivial
  | ok read q =>
    obtain ⟨left, noted, closed⟩ := h
    refine ⟨left, noted, fun count closes => ?_⟩
    have within : (p.withCloses closes).enter.arguments name p.line (ts ++ closingBraces count) =
        _ := closed count closes
    rw [List.cons_append, List.cons_append, List.cons_append,
      command_leftBrace (p := p.withCloses closes) fits]
    exact congrArg (Parser.asCommand name) within

/-- The braces that a command has left close the lists further out. -/
theorem TakesBraces.nested {name : String} {line : Nat} {node : Node} {rest : List Token}
    {result : Reading (List Node × List Token)}
    (commanded : TakesBraces command p (.backslash :: ts) (.ok (node, rest) q))
    (others : TakesBraces (fun p ts => p.arguments name line ts) q rest result) :
    TakesBraces (fun p ts => p.arguments name line ts) p (.backslash :: ts)
      (Reading.map (before node) result) := by
  cases result with
  | error e q' => trivial
  | ok listed q' =>
    obtain ⟨left, noted, closed⟩ := commanded
    obtain ⟨left', noted', closed'⟩ := others
    refine ⟨left ++ left', by rw [noted', noted, List.append_assoc], fun count closes => ?_⟩
    have first := closed count closes
    rw [List.cons_append] at first
    show (p.withCloses closes).arguments name line (.backslash :: (ts ++ closingBraces count)) = _
    rw [arguments_backslash, first]
    have more := closed' (count - left.length) (closes ++ left.drop count)
    rw [List.append_assoc, ← List.drop_append, Nat.sub_sub, ← List.length_append] at more
    exact congrArg (Reading.map (before node)) more

/-- Every reading between blank lines takes its braces. -/
theorem readingInvariant_takesBraces :
    ReadingInvariant
      (fun p ts result => (∀ t ∈ ts, t.isBlankLine = false) → TakesBraces command p ts result)
      (fun p name line ts result => (∀ t ∈ ts, t.isBlankLine = false) →
        TakesBraces (fun p ts => p.arguments name line ts) p ts result) where
  noBackslash _ _ _ _ := trivial
  noName _ _ _ _ := trivial
  tooDeep _ _ _ _ _ := trivial
  braces p name ts result fits h noBlankLine :=
    (h fun t mem => noBlankLine t (by simp [mem])).asCommand fits
  delimited p name s ts fits _ :=
    .of_closed rfl fun count closes => command_space (p := p.withCloses closes) fits s
  bare p name ts fits noBrace noSpace _ := by
    refine .of_closed rfl fun count closes => ?_
    refine command_bare (p := p.withCloses closes) fits ?_ ?_
    · exact append_closingBraces_ne_cons (by simp) noBrace count
    · exact fun s => append_closingBraces_ne_cons (by simp) (noSpace s) count
  ended p name line _ := takesBraces_nil p name line
  interrupted p name line s ts noBlankLine :=
    absurd (noBlankLine _ List.mem_cons_self) (by simp [Token.isBlankLine])
  closed p name line ts _ := .of_closed rfl fun _ _ => arguments_rightBrace
  nested p name line ts node rest q result read commanded h noBlankLine := by
    obtain ⟨-, -, ends⟩ := command_keepsNesting read
    exact (commanded noBlankLine).nested (h fun t mem => noBlankLine t (ends.subset mem))
  refused _ _ _ _ _ _ _ _ := trivial
  blank p name line s ts result h noBlankLine :=
    (h fun t mem => noBlankLine t (List.mem_cons_of_mem _ mem)).map_before .space rfl
      fun _ _ => arguments_space s
  text p name line t ts result isText h noBlankLine :=
    (h fun t mem => noBlankLine t (List.mem_cons_of_mem _ mem)).map_before (.text t.text) rfl
      fun _ _ => arguments_text isText

/-- The nodes of a group of tokens do not change where braces close the lists that are open
at its end. -/
def ClosedByBraces (p : Parser) (ts : List Token) : Reading (List Node) → Prop
  | .error _ _ => True
  | .ok nodes q => ∃ left, q.implicitCloses = p.implicitCloses ++ left ∧
      ∀ count closes, count ≤ left.length →
        (p.withCloses closes).nodes (ts ++ closingBraces count) =
          .ok nodes (q.withCloses (closes ++ left.drop count))

theorem ClosedByBraces.map_cons {result : Reading (List Node)} (h : ClosedByBraces q ts result)
    (node : Node) (noted : q.implicitCloses = p.implicitCloses)
    (step : ∀ count closes, (p.withCloses closes).nodes (ts' ++ closingBraces count) =
      Reading.map (node :: ·) ((q.withCloses closes).nodes (ts ++ closingBraces count))) :
    ClosedByBraces p ts' (Reading.map (node :: ·) result) := by
  cases result with
  | error e q' => trivial
  | ok nodes q' =>
    obtain ⟨left, noted', closed⟩ := h
    exact ⟨left, noted ▸ noted', fun count closes few => by rw [step, closed count closes few]; rfl⟩

/-- The nodes of a group do not change where its open lists are closed by braces. -/
theorem nodes_append_closingBraces (p : Parser) (ts : List Token)
    (noBlankLine : ∀ t ∈ ts, t.isBlankLine = false) : ClosedByBraces p ts (p.nodes ts) := by
  refine nodes_induction
    (motive := fun p ts result => (∀ t ∈ ts, t.isBlankLine = false) → ClosedByBraces p ts result)
    ?nil ?command ?refused ?space ?blankLine ?text p ts noBlankLine
  case nil =>
    intro p _
    refine ⟨[], (List.append_nil _).symm, fun count closes few => ?_⟩
    -- Nothing is open, so no brace is written, which would be text here.
    rw [Nat.le_zero.mp few, List.drop_nil, List.append_nil]
    exact nodes_nil
  case command =>
    intro p ts node rest q result read h noBlankLine
    obtain ⟨-, -, ends⟩ := command_keepsNesting read
    have others := h fun t mem => noBlankLine t (ends.subset mem)
    have commanded := readingInvariant_takesBraces.command p (.backslash :: ts) noBlankLine
    rw [read] at commanded
    cases result with
    | error e q' => trivial
    | ok nodes q' =>
      obtain ⟨left, noted, closed⟩ := commanded
      obtain ⟨left', noted', closed'⟩ := others
      refine ⟨left ++ left', by rw [noted', noted, List.append_assoc], fun count closes few => ?_⟩
      rw [List.length_append] at few
      have first := closed count closes
      rw [List.cons_append] at first ⊢
      rw [nodes_backslash, first]
      have others := closed' (count - left.length) (closes ++ left.drop count)
        (Nat.sub_le_iff_le_add'.mpr few)
      rw [List.append_assoc, ← List.drop_append] at others
      exact congrArg (Reading.map (node :: ·)) others
  case refused => exact fun _ _ _ _ _ _ => trivial
  case space =>
    intro p s ts result h noBlankLine
    exact (h fun t mem => noBlankLine t (List.mem_cons_of_mem _ mem)).map_cons .space rfl
      fun _ _ => nodes_space s
  case blankLine =>
    intro p s ts result _ noBlankLine
    exact absurd (noBlankLine _ List.mem_cons_self) (by simp [Token.isBlankLine])
  case text =>
    intro p t ts result isText h noBlankLine
    exact (h fun t mem => noBlankLine t (List.mem_cons_of_mem _ mem)).map_cons (.text t.text) rfl
      fun _ _ => nodes_text isText

end Parser

/-! ## What the lists are left open in -/

/-- Nodes in front do not matter to where a list of nodes ends. -/
theorem EndsIn.cons {nodes : List Node} {names : List String} (ends : EndsIn nodes names)
    (node : Node) : EndsIn (node :: nodes) names := by
  cases ends with
  | outside => exact .outside _
  | inside before ends => exact .inside (node :: before) ends

namespace Parser

variable {p q : Parser} {ts ts' : List Token}

/-- A command that leaves lists open is the last thing that is read, and ends inside of
them. -/
def CommandEndsIn (p : Parser) : Reading (Node × List Token) → Prop
  | .error _ _ => True
  | .ok read q => ∃ left, q.implicitCloses = p.implicitCloses ++ left ∧
      EndsIn [read.1] (left.reverse.map ImplicitClose.command) ∧ (left = [] ∨ read.2 = [])

/-- An argument list that is left open is closed after those in it, and ends inside of
them. -/
def ArgumentsEndIn (p : Parser) (name : String) (line : Nat) (ts : List Token) :
    Reading (List Node × List Token) → Prop
  | .error _ _ => True
  | .ok read q => ∃ left, q.implicitCloses = p.implicitCloses ++ left ∧
      (left = [] ∨ read.2 = [] ∧ ∃ inner, left = inner ++ [⟨name, line⟩] ∧
        EndsIn read.1 (inner.reverse.map ImplicitClose.command)) ∧
      (ts = [] → read.1 = [] ∧ left = [⟨name, line⟩])

theorem ArgumentsEndIn.map_before {name : String} {line : Nat}
    {result : Reading (List Node × List Token)} (h : ArgumentsEndIn q name line ts result)
    (node : Node) (noted : q.implicitCloses = p.implicitCloses) (nonempty : ts' ≠ []) :
    ArgumentsEndIn p name line ts' (Reading.map (before node) result) := by
  cases result with
  | error e q' => trivial
  | ok read q' =>
    obtain ⟨left, noted', ends, -⟩ := h
    refine ⟨left, noted ▸ noted', ?_, fun empty => absurd empty nonempty⟩
    rcases ends with closed | ⟨last, inner, same, ends⟩
    · exact .inl closed
    · exact .inr ⟨last, inner, same, ends.cons node⟩

/-- Every reading between blank lines ends inside of the lists that it leaves open. -/
theorem readingInvariant_endsIn :
    ReadingInvariant
      (fun p ts result => (∀ t ∈ ts, t.isBlankLine = false) → CommandEndsIn p result)
      (fun p name line ts result =>
        (∀ t ∈ ts, t.isBlankLine = false) → ArgumentsEndIn p name line ts result) where
  noBackslash _ _ _ _ := trivial
  noName _ _ _ _ := trivial
  tooDeep _ _ _ _ _ := trivial
  braces p name ts result _ h noBlankLine := by
    have inside := h fun t mem => noBlankLine t (by simp [mem])
    cases result with
    | error e q => trivial
    | ok read q =>
      obtain ⟨left, noted, rfl | ⟨last, inner, rfl, ends⟩, -⟩ := inside
      · exact ⟨[], noted, .outside _, .inl rfl⟩
      · refine ⟨inner ++ [⟨name, p.line⟩], ?_, ?_, .inr last⟩
        · exact noted
        · rw [List.reverse_append]
          exact .inside [] ends
  delimited _ _ _ _ _ _ := ⟨[], (List.append_nil _).symm, .outside _, .inl rfl⟩
  bare _ _ _ _ _ _ _ := ⟨[], (List.append_nil _).symm, .outside _, .inl rfl⟩
  ended p name line _ :=
    ⟨[⟨name, line⟩], rfl, .inr ⟨rfl, [], rfl, .outside _⟩, fun _ => ⟨rfl, rfl⟩⟩
  interrupted p name line s ts noBlankLine :=
    absurd (noBlankLine _ List.mem_cons_self) (by simp [Token.isBlankLine])
  closed _ _ _ _ _ := ⟨[], (List.append_nil _).symm, .inl rfl, nofun⟩
  nested p name line ts node rest q result read commanded h noBlankLine := by
    obtain ⟨-, -, isEnd⟩ := command_keepsNesting read
    have others := h fun t mem => noBlankLine t (isEnd.subset mem)
    obtain ⟨left, noted, ends, complete | last⟩ := commanded noBlankLine
    · exact others.map_before node (by rw [noted, complete, List.append_nil])
        (List.cons_ne_nil _ _)
    · cases result with
      | error e q' => trivial
      | ok listed q' =>
        obtain ⟨left', noted', closed, nothing⟩ := others
        obtain ⟨empty, rfl⟩ := nothing last
        obtain ⟨last', -⟩ := closed.resolve_left (List.cons_ne_nil _ _)
        refine ⟨left ++ [⟨name, line⟩], by rw [noted', noted, List.append_assoc],
          .inr ⟨last', left, rfl, ?_⟩, nofun⟩
        rw [before, empty]
        exact ends
  refused _ _ _ _ _ _ _ _ := trivial
  blank p name line s ts result h noBlankLine :=
    (h fun t mem => noBlankLine t (List.mem_cons_of_mem _ mem)).map_before .space rfl
      (List.cons_ne_nil _ _)
  text p name line t ts result _ h noBlankLine :=
    (h fun t mem => noBlankLine t (List.mem_cons_of_mem _ mem)).map_before (.text t.text) rfl
      (List.cons_ne_nil _ _)

/-- Nodes end inside of the lists that they leave open, and no nodes leave none open. -/
def NodesEndIn (p : Parser) (ts : List Token) : Reading (List Node) → Prop
  | .error _ _ => True
  | .ok nodes q => ∃ left, q.implicitCloses = p.implicitCloses ++ left ∧
      EndsIn nodes (left.reverse.map ImplicitClose.command) ∧
      (ts = [] → nodes = [] ∧ left = [])

theorem NodesEndIn.map_cons {result : Reading (List Node)} (h : NodesEndIn q ts result)
    (node : Node) (noted : q.implicitCloses = p.implicitCloses) (nonempty : ts' ≠ []) :
    NodesEndIn p ts' (Reading.map (node :: ·) result) := by
  cases result with
  | error e q' => trivial
  | ok nodes q' =>
    obtain ⟨left, noted', ends, -⟩ := h
    exact ⟨left, noted ▸ noted', ends.cons node, fun empty => absurd empty nonempty⟩

/-- So do the nodes of a group. -/
theorem nodes_endIn (p : Parser) (ts : List Token) (noBlankLine : ∀ t ∈ ts, t.isBlankLine = false) :
    NodesEndIn p ts (p.nodes ts) := by
  refine nodes_induction
    (motive := fun p ts result => (∀ t ∈ ts, t.isBlankLine = false) → NodesEndIn p ts result)
    ?nil ?command ?refused ?space ?blankLine ?text p ts noBlankLine
  case nil => exact fun p _ => ⟨[], (List.append_nil _).symm, .outside _, fun _ => ⟨rfl, rfl⟩⟩
  case command =>
    intro p ts node rest q result read h noBlankLine
    obtain ⟨-, -, isEnd⟩ := command_keepsNesting read
    have others := h fun t mem => noBlankLine t (isEnd.subset mem)
    have commanded := readingInvariant_endsIn.command p (.backslash :: ts) noBlankLine
    rw [read] at commanded
    obtain ⟨left, noted, ends, complete | last⟩ := commanded
    · exact others.map_cons node (by rw [noted, complete, List.append_nil])
        (List.cons_ne_nil _ _)
    · -- The command has taken all tokens, so nothing is read after it.
      cases result with
      | error e q' => trivial
      | ok nodes q' =>
        obtain ⟨left', noted', -, nothing⟩ := others
        obtain ⟨rfl, rfl⟩ := nothing last
        exact ⟨left, by rw [noted', noted, List.append_nil], ends, nofun⟩
  case refused => exact fun _ _ _ _ _ _ => trivial
  case space =>
    intro p s ts result h noBlankLine
    exact (h fun t mem => noBlankLine t (List.mem_cons_of_mem _ mem)).map_cons .space rfl
      (List.cons_ne_nil _ _)
  case blankLine =>
    intro p s ts result h noBlankLine
    exact (h fun t mem => noBlankLine t (List.mem_cons_of_mem _ mem)).map_cons .space rfl
      (List.cons_ne_nil _ _)
  case text =>
    intro p t ts result _ h noBlankLine
    exact (h fun t mem => noBlankLine t (List.mem_cons_of_mem _ mem)).map_cons (.text t.text) rfl
      (List.cons_ne_nil _ _)

/-! ## Groups and documents -/

/-- What the groups leave open is what the parser has noted, and each group ends inside of
the lists that it leaves open. -/
theorem readGroups_closes {groups : List Group} (read : p.readGroups ts = .ok groups q) :
    q.implicitCloses = p.implicitCloses ++ groups.flatMap Group.closes ∧
      ∀ group ∈ groups, EndsIn group.nodes (group.closes.reverse.map ImplicitClose.command) := by
  refine readGroups_induction (motive := fun p _ groups q =>
    q.implicitCloses = p.implicitCloses ++ groups.flatMap Group.closes ∧
      ∀ group ∈ groups, EndsIn group.nodes (group.closes.reverse.map ImplicitClose.command))
    ?last ?more read
  case last =>
    intro p group nodes q noBlankLine first
    have ended := nodes_endIn p group noBlankLine
    rw [first] at ended
    obtain ⟨left, noted, ends, -⟩ := ended
    rw [noted, List.drop_left]
    exact ⟨by simp, by simpa using ends⟩
  case more =>
    intro p group s rest nodes q groups q' noBlankLine first ih
    have ended := nodes_endIn p group noBlankLine
    rw [first] at ended
    obtain ⟨left, noted, ends, -⟩ := ended
    obtain ⟨others, each⟩ := ih
    rw [noted, List.drop_left]
    refine ⟨?_, List.forall_mem_cons.mpr ⟨ends, each⟩⟩
    rw [others, List.flatMap_cons, ← List.append_assoc]
    exact congrArg (· ++ _) noted

/-- Braces at the end of a group close its innermost lists. -/
theorem readGroup_append_closingBraces {group : List Token} {nodes : List Node}
    (noBlankLine : ∀ t ∈ group, t.isBlankLine = false) (read : p.nodes group = .ok nodes q)
    {count : Nat} (few : count ≤ (q.implicitCloses.drop p.implicitCloses.length).length)
    (closes : List ImplicitClose) :
    let closed := Group.close ⟨nodes, q.implicitCloses.drop p.implicitCloses.length⟩ count
    (p.withCloses closes).readGroup (group ++ closingBraces count) =
      .ok closed (q.withCloses (closes ++ closed.closes)) := by
  have closed := nodes_append_closingBraces p group noBlankLine
  rw [read] at closed
  obtain ⟨left, noted, closed⟩ := closed
  rw [noted, List.drop_left] at few ⊢
  rw [readGroup, closed count closes few]
  simp [withCloses, Group.close]

/-- Braces at the end of each group close its innermost lists. -/
theorem readGroups_closeGroups {groups : List Group} (read : p.readGroups ts = .ok groups q)
    {counts : List Nat}
    (few : List.Forall₂ (fun group count => count ≤ group.closes.length) groups counts)
    (closes : List ImplicitClose) :
    let closed := List.zipWith Group.close groups counts
    (p.withCloses closes).readGroups (closeGroups counts ts) =
      .ok closed (q.withCloses (closes ++ closed.flatMap Group.closes)) := by
  have noBlankLine_append {group : List Token} (noBlankLine : ∀ t ∈ group, t.isBlankLine = false)
      (count : Nat) : ∀ t ∈ group ++ closingBraces count, t.isBlankLine = false :=
    fun t mem => (List.mem_append.mp mem).elim (noBlankLine t) isBlankLine_of_mem_closingBraces
  revert counts closes
  refine readGroups_induction (motive := fun p ts groups q => ∀ {counts},
    List.Forall₂ (fun group count => count ≤ group.closes.length) groups counts → ∀ closes,
      let closed := List.zipWith Group.close groups counts
      (p.withCloses closes).readGroups (closeGroups counts ts) =
        .ok closed (q.withCloses (closes ++ closed.flatMap Group.closes)))
    ?last ?more read
  case last =>
    intro p group nodes q noBlankLine first counts few closes
    obtain ⟨count, none, fits, isNil, rfl⟩ := List.forall₂_cons_left_iff.mp few
    obtain rfl := List.forall₂_nil_left_iff.mp isNil
    rw [closeGroups_of_noBlankLine noBlankLine,
      readGroups_of_noBlankLine (noBlankLine_append noBlankLine count),
      readGroup_append_closingBraces noBlankLine first fits]
    simp
  case more =>
    intro p group s rest nodes q groups q' noBlankLine first ih counts few closes
    obtain ⟨count, others, fits, fewer, rfl⟩ := List.forall₂_cons_left_iff.mp few
    rw [closeGroups_append noBlankLine,
      readGroups_append (noBlankLine_append noBlankLine count),
      readGroup_append_closingBraces noBlankLine first fits]
    simp only [List.zipWith_cons_cons, List.flatMap_cons, ← List.append_assoc]
    exact congrArg (Reading.map _) (ih fewer _)

/-- Which lists were closed by braces cannot be seen in the paragraphs. -/
theorem map_paragraph_zipWith_close {groups : List Group} {counts : List Nat}
    (same : groups.length = counts.length) :
    (List.zipWith Group.close groups counts).map Group.paragraph = groups.map Group.paragraph := by
  rw [List.map_zipWith]
  exact List.ext_getElem (by simp [same]) fun i _ _ => by simp [Group.close, Group.paragraph]

/-- Writing the braces that a text leaves out does not change its document. Between the blank
lines of tokens that can be read stand groups, each of which ends inside of some commands
whose lists are closed implicitly, from the innermost one outwards. Where closing braces are
written at the end of each group, as many as it has such lists, nothing is closed implicitly
any more; where they are fewer, the outermost lists remain, in the same order. -/
theorem document_closeGroups {document : Document} (read : p.document ts = .ok document q) :
    ∃ groups, p.readGroups ts = .ok groups q ∧ groups.length = (splitParagraphs ts).length ∧
      q.implicitCloses = p.implicitCloses ++ groups.flatMap Group.closes ∧
      (∀ group ∈ groups, EndsIn group.nodes (group.closes.reverse.map ImplicitClose.command)) ∧
      p.document (closeGroups (groups.map fun group => group.closes.length) ts) =
        .ok document { q with implicitCloses := p.implicitCloses } ∧
      ∀ counts, List.Forall₂ (fun group count => count ≤ group.closes.length) groups counts →
        p.document (closeGroups counts ts) = .ok document { q with
          implicitCloses := p.implicitCloses ++
            (List.zipWith (fun group k => group.closes.drop k) groups counts).flatten } := by
  rw [document_eq_map_readGroups] at read
  cases found : p.readGroups ts with
  | error e q' =>
    rw [found] at read
    cases read
  | ok groups q' =>
    rw [found] at read
    cases read
    obtain ⟨noted, ends⟩ := readGroups_closes found
    have closed : ∀ counts,
        List.Forall₂ (fun group count => count ≤ group.closes.length) groups counts →
          p.document (closeGroups counts ts) = .ok ⟨groups.map Group.paragraph⟩ { q with
            implicitCloses := p.implicitCloses ++
              (List.zipWith (fun group k => group.closes.drop k) groups counts).flatten } := by
      intro counts few
      have again := readGroups_closeGroups found few p.implicitCloses
      rw [show p.withCloses p.implicitCloses = p from rfl] at again
      rw [document_eq_map_readGroups, again, Reading.map_ok,
        map_paragraph_zipWith_close few.length_eq, List.flatMap_def, List.map_zipWith]
      rfl
    refine ⟨groups, rfl, (readGroups_length found).1, noted, ends, ?_, closed⟩
    have all := closed (groups.map fun group => group.closes.length)
      (by simp [List.forall₂_map_right_iff, List.forall₂_same])
    simpa [List.zipWith_map_right, List.zipWith_self] using all

/-- Two lists are left open in front of a blank line and one behind it. A brace in front of
the blank line closes the inner one of the two. -/
theorem document_closeGroups_oneBrace :
    let p := Parser.mk 200 0 1 []
    let ts := [.backslash, .word "b", .leftBrace, .backslash, .word "i", .leftBrace, .word "x",
      .blankLine "\n\n", .backslash, .word "u", .leftBrace, .space " "]
    ∃ document q, p.document ts = .ok document q ∧
      q.implicitCloses = [⟨"i", 1⟩, ⟨"b", 1⟩, ⟨"u", 3⟩] ∧
      closeGroups [1, 0] ts =
        [.backslash, .word "b", .leftBrace, .backslash, .word "i", .leftBrace, .word "x",
          .rightBrace, .blankLine "\n\n", .backslash, .word "u", .leftBrace, .space " "] ∧
      p.document (closeGroups [1, 0] ts) =
        .ok document { q with implicitCloses := [⟨"b", 1⟩, ⟨"u", 3⟩] } ∧
      p.document (closeGroups [2, 1] ts) = .ok document { q with implicitCloses := [] } := by
  intro p ts
  let first := [Node.command "b" [.command "i" [.text "x"]]]
  let second := [Node.command "u" [.space]]
  let q := Parser.mk 200 0 3 [⟨"i", 1⟩, ⟨"b", 1⟩, ⟨"u", 3⟩]
  have read : p.document ts = .ok ⟨[⟨first⟩, ⟨second⟩]⟩ q := by decide +kernel
  have found : p.readGroups ts = .ok [⟨first, [⟨"i", 1⟩, ⟨"b", 1⟩]⟩, ⟨second, [⟨"u", 3⟩]⟩] q := by
    decide +kernel
  obtain ⟨groups, found', -, noted, -, all, some⟩ := document_closeGroups read
  rw [found] at found'
  cases found'
  exact ⟨_, q, read, noted, rfl, some [1, 0] (by decide), all⟩

end Parser

end TexMarkup
