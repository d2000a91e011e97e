import TexMarkup.Proofs.Parser.Lines

/-!
# What stands between two blank lines

A paragraph of a document has no spaces at its edges. Here the groups of tokens between
blank lines are read with these spaces, and together with the argument lists that each of
them leaves open, so that what a document makes of them can be compared with other
readings of the same tokens.

## Main definitions

* `Group`: the nodes of a group of tokens and the lists that it leaves open.
* `Parser.readGroups`: the groups of a token list, read one after the other.

## Main results

* `Parser.document_eq_map_readGroups`: a document holds the groups, trimmed.
* `Parser.readGroups_append`: the groups on both sides of a blank line.
* `Parser.readGroups_induction`: induction from group to group.
-/

namespace TexMarkup

/-- What is read from the tokens between two blank lines. -/
structure Group where
  /-- The nodes, with the spaces at the edges. -/
  nodes : List Node
  /-- The argument lists that are open at the end, in the order in which they are closed. -/
  closes : List ImplicitClose
  deriving DecidableEq

/-- The paragraph of a group. -/
def Group.paragraph (group : Group) : Paragraph :=
  ⟨Parser.trimSpaces group.nodes⟩

namespace Parser

variable {p q : Parser} {group rest : List Token}

/-- Reads one group of tokens. -/
def readGroup (p : Parser) (ts : List Token) : Reading Group :=
  match p.nodes ts with
  | .ok nodes q => .ok ⟨nodes, q.implicitCloses.drop p.implicitCloses.length⟩ q
  | .error e q => .error e q

/-- Reads groups of tokens one after the other; after each group comes the blank line that
ends it, as long as there are any. -/
def readEach (p : Parser) : List (List Token) → List Token → Reading (List Group)
  | [], _ => .ok [] p
  | group :: rest, separators =>
    match p.readGroup group with
    | .error e q => .error e q
    | .ok read q =>
      let next := match separators with
        | [] => q
        | separator :: _ => q.advance separator
      Reading.map (read :: ·) (next.readEach rest separators.tail)

/-- Reads the groups between the blank lines of the tokens. -/
def readGroups (p : Parser) (ts : List Token) : Reading (List Group) :=
  p.readEach (splitParagraphs ts) (ts.filter Token.isBlankLine)

/-! ## Groups and paragraphs -/

theorem block_eq_map_readGroup (p : Parser) (ts : List Token) :
    p.block ts = Reading.map Group.paragraph (p.readGroup ts) := by
  rw [block, readGroup]
  cases p.nodes ts <;> rfl

theorem groups_eq_map_readEach (p : Parser) (groups : List (List Token)) (separators : List Token) :
    p.groups groups separators =
      Reading.map (List.map Group.paragraph) (p.readEach groups separators) := by
  induction groups generalizing p separators with
  | nil => rfl
  | cons group rest ih =>
    rw [groups, readEach, block_eq_map_readGroup]
    cases p.readGroup group with
    | error e q => rfl
    | ok read q =>
      simp only [Reading.map_ok, ih]
      generalize Parser.readEach _ rest separators.tail = result
      cases result <;> rfl

/-- A document holds the paragraphs of the groups between its blank lines. -/
theorem document_eq_map_readGroups (p : Parser) (ts : List Token) :
    p.document ts = Reading.map (fun groups => ⟨groups.map Group.paragraph⟩) (p.readGroups ts) := by
  rw [document_eq_map, paragraphs, groups_eq_map_readEach, readGroups]
  cases p.readEach (splitParagraphs ts) (ts.filter Token.isBlankLine) <;> rfl

/-! ## Groups one by one -/

/-- The last group has no blank line after it. -/
theorem readGroups_of_noBlankLine (noBlankLine : ∀ t ∈ group, t.isBlankLine = false) :
    p.readGroups group = Reading.map (fun read => [read]) (p.readGroup group) := by
  rw [readGroups, splitParagraphs_of_noBlankLine noBlankLine, filter_isBlankLine noBlankLine,
    readEach]
  cases p.readGroup group <;> rfl

/-- The reading goes on after a group and the blank line that ends it. -/
theorem readGroups_append (noBlankLine : ∀ t ∈ group, t.isBlankLine = false) (s : String) :
    p.readGroups (group ++ .blankLine s :: rest) =
      match p.readGroup group with
      | .ok read q => Reading.map (read :: ·) ((q.advance (.blankLine s)).readGroups rest)
      | .error e q => .error e q := by
  rw [readGroups, splitParagraphs_append_blankLine noBlankLine, List.filter_append,
    filter_isBlankLine noBlankLine, List.nil_append, List.filter_cons_of_pos rfl, readEach]
  cases p.readGroup group <;> rfl

/-- Induction from group to group of tokens that can be read. -/
theorem readGroups_induction {motive : Parser → List Token → List Group → Parser → Prop}
    (last : ∀ p group nodes q, (∀ t ∈ group, t.isBlankLine = false) → p.nodes group = .ok nodes q →
      motive p group [⟨nodes, q.implicitCloses.drop p.implicitCloses.length⟩] q)
    (more : ∀ p group s rest nodes q groups q', (∀ t ∈ group, t.isBlankLine = false) →
      p.nodes group = .ok nodes q → motive (q.advance (.blankLine s)) rest groups q' →
      motive p (group ++ .blankLine s :: rest)
        (⟨nodes, q.implicitCloses.drop p.implicitCloses.length⟩ :: groups) q')
    {ts : List Token} {groups : List Group} (read : p.readGroups ts = .ok groups q) :
    motive p ts groups q := by
  induction ts using paragraphs_induction generalizing p groups with
  | last group noBlankLine =>
    rw [readGroups_of_noBlankLine noBlankLine, readGroup] at read
    cases first : p.nodes group with
    | error e q' =>
      rw [first] at read
      cases read
    | ok nodes q' =>
      rw [first] at read
      cases read
      exact last p group nodes _ noBlankLine first
  | more group s rest noBlankLine ih =>
    rw [readGroups_append noBlankLine, readGroup] at read
    cases first : p.nodes group with
    | error e q' =>
      rw [first] at read
      cases read
    | ok nodes q' =>
      rw [first] at read
      obtain ⟨groups, others, rfl⟩ := Reading.map_eq_ok.mp read
      exact more p group s rest nodes q' groups _ noBlankLine first (ih others)

/-- There is a group for every paragraph, and one more than there are blank lines. -/
theorem readGroups_length {ts : List Token} {groups : List Group}
    (read : p.readGroups ts = .ok groups q) :
    groups.length = (splitParagraphs ts).length ∧
      groups.length = ts.countP Token.isBlankLine + 1 := by
  refine readGroups_induction (motive := fun _ ts groups _ =>
    groups.length = (splitParagraphs ts).length ∧ groups.length = ts.countP Token.isBlankLine + 1)
    ?last ?more read
  case last =>
    intro p group nodes q noBlankLine _
    rw [splitParagraphs_of_noBlankLine noBlankLine,
      List.countP_eq_zero.mpr (by simpa using noBlankLine)]
    exact ⟨rfl, rfl⟩
  case more =>
    intro p group s rest nodes q groups q' noBlankLine _ ih
    obtain ⟨count, blankLines⟩ := ih
    rw [splitParagraphs_append_blankLine noBlankLine, List.countP_append,
      List.countP_eq_zero.mpr (by simpa using noBlankLine), List.countP_cons_of_pos rfl,
      List.length_cons, List.length_cons, ← count, ← blankLines, Nat.zero_add]
    exact ⟨rfl, rfl⟩

end Parser

end TexMarkup
