import TexMarkup.Proofs.Document.Walk
import TexMarkup.Proofs.Parser.Reading

/-!
# What is left of the tokens

A command, and a paragraph up to a brace, take some tokens from the front and leave the others
as they are. Of the others they look at the first one at most: in front of any tokens that
begin in the same way they read the same. Every backslash that they take becomes a command.

## Main definitions

* `Node.commandCount`: how many commands there are in trees.
* `Parser.TakesFront`: the same is read in front of all tokens that begin in the same way.
* `Parser.CommandLookahead`, `Parser.ParagraphLookahead`: what is taken and what is left by
  the reading of a command and of a paragraph.

## Main results

* `Parser.readingInvariant_looksAhead`: commands and argument lists.
* `Parser.remainder_lookahead`: commands and paragraphs up to a brace, read by any parser.
-/

namespace TexMarkup

/-! ## Counting commands -/

/-- How many commands a walk through the trees meets. -/
def Node.commandCount (nodes : List Node) : Nat :=
  (Node.walk nodes).countP fun node => node.commandName?.isSome

namespace Node

@[simp] theorem commandCount_nil : commandCount [] = 0 := by
  rw [commandCount, walk, List.countP_nil]

theorem commandCount_cons (node : Node) (nodes : List Node) :
    commandCount (node :: nodes) = commandCount [node] + commandCount nodes := by
  rw [commandCount, walk_cons, List.countP_append, commandCount, commandCount]

@[simp] theorem commandCount_command (name : String) (children : List Node) :
    commandCount [.command name children] = commandCount children + 1 := by
  rw [commandCount, walk_command, List.countP_cons_of_pos rfl, commandCount]

@[simp] theorem commandCount_text (content : String) : commandCount [.text content] = 0 := by
  rw [commandCount, walk, walk]
  rfl

@[simp] theorem commandCount_space : commandCount [.space] = 0 := by
  rw [commandCount, walk, walk]
  rfl

end Node

theorem Reading.toExcept_eq_ok {α : Type} {result : Reading α} {x : α} :
    result.toExcept = .ok x ↔ ∃ q, result = .ok x q := by
  constructor
  · intro ok
    cases result with
    | ok x' q =>
      cases ok
      exact ⟨q, rfl⟩
    | error e q => cases ok
  · rintro ⟨q, rfl⟩
    rfl

namespace Parser

variable {α : Type} {p : Parser} {ts rest front : List Token} {node : Node}

/-! ## Taking tokens from the front -/

/-- In front of all tokens that begin as `rest` does, or end where it ends, the same is read,
and they are left. -/
def TakesFront (reads : List Token → α → List Token → Prop) (front : List Token) (x : α)
    (rest : List Token) : Prop :=
  ∀ rest', rest'.head? = rest.head? → reads (front ++ rest') x rest'

/-- Wherever a command is read, it begins with a backslash and its name. It is read from
these tokens in front of all others that begin as those which are left, and it holds one
command for each backslash among them. -/
def CommandLookahead (reads : List Token → Node → List Token → Prop) : Prop :=
  ∀ ts node rest, reads ts node rest → ∃ name front,
    let taken := .backslash :: .word name :: front
    ts = taken ++ rest ∧ node.commandName? = some name ∧
      Node.commandCount [node] = taken.count .backslash ∧ TakesFront reads taken node rest

/-- Wherever nodes are read, a brace or a blank line comes next, or nothing. They are read
from these tokens in front of all others that begin as those which are left, and they hold
one command for each backslash among them. -/
def ParagraphLookahead (reads : List Token → List Node → List Token → Prop) : Prop :=
  ∀ ts nodes rest, reads ts nodes rest → ∃ taken,
    ts = taken ++ rest ∧ (∀ t ∈ rest.head?, t.stopsParagraph = true) ∧
      Node.commandCount nodes = taken.count .backslash ∧ TakesFront reads taken nodes rest

/-- Where some nodes have been read from the front, a command has been built for each
backslash, and of what is left no more than the first token has been looked at. -/
def LooksAhead (call : List Token → Reading (List Node × List Token)) (ts : List Token)
    (result : Reading (List Node × List Token)) : Prop :=
  ∀ nodes rest q, result = .ok (nodes, rest) q → ∃ taken, ts = taken ++ rest ∧
    Node.commandCount nodes = taken.count .backslash ∧
      TakesFront (fun ts nodes rest => call ts = .ok (nodes, rest) q) taken nodes rest

/-- The same for a command, which begins with a backslash and its name. -/
def CommandLooksAhead (p : Parser) (ts : List Token) (result : Reading (Node × List Token)) :
    Prop :=
  ∀ node rest q, result = .ok (node, rest) q → ∃ name front,
    let taken := .backslash :: .word name :: front
    ts = taken ++ rest ∧ node.commandName? = some name ∧
      Node.commandCount [node] = taken.count .backslash ∧
        TakesFront (fun ts node rest => p.command ts = .ok (node, rest) q) taken node rest

/-- A node is read from the front and then the others. What the first step looks at behind
its tokens are tokens of the second one, or there are none. -/
theorem LooksAhead.before {call next : List Token → Reading (List Node × List Token)}
    {result : Reading (List Node × List Token)} (h : LooksAhead next rest result)
    (front : List Token) (split : ts = front ++ rest)
    (counted : Node.commandCount [node] = front.count .backslash)
    (step : ∀ rest', rest'.head? = rest.head? →
      call (front ++ rest') = Reading.map (Parser.before node) (next rest')) :
    LooksAhead call ts (Reading.map (Parser.before node) result) := by
  intro nodes last q read
  obtain ⟨⟨nodes', last'⟩, read', same⟩ := Reading.map_eq_ok.mp read
  obtain ⟨rfl, rfl⟩ := Prod.mk.inj same
  obtain ⟨taken, split', counted', takes⟩ := h nodes' last' q read'
  refine ⟨front ++ taken, ?_, ?_, fun rest' head => ?_⟩
  · rw [split, split', List.append_assoc]
  · rw [Node.commandCount_cons, counted, counted', List.count_append]
  · have next_head : (taken ++ rest').head? = rest.head? := by
      rw [split', List.head?_append, List.head?_append, head]
    have read_next : next (taken ++ rest') = .ok (nodes', rest') q := takes rest' head
    show call (front ++ taken ++ rest') = _
    rw [List.append_assoc, step _ next_head, read_next]
    rfl

/-- A command with an argument list looks ahead as far as the list does. -/
theorem LooksAhead.asCommand {name : String} {result : Reading (List Node × List Token)}
    (h : LooksAhead (p.enter.arguments name p.line) ts result)
    (fits : ¬ p.maxDepth < p.depth + 1) :
    CommandLooksAhead p (.backslash :: .word name :: .leftBrace :: ts)
      (Parser.asCommand name result) := by
  intro node rest q read
  cases result with
  | error e q' => cases read
  | ok listed q' =>
    obtain ⟨children, after⟩ := listed
    cases read
    obtain ⟨taken, split, counted, takes⟩ := h children after q' rfl
    refine ⟨name, .leftBrace :: taken, ?_, rfl, ?_, fun rest' head => ?_⟩
    · rw [split]
      rfl
    · simp [counted]
    · have closed : p.enter.arguments name p.line (taken ++ rest') = .ok (children, rest') q' :=
        takes rest' head
      simp only [List.cons_append, command_leftBrace fits, closed]
      rfl

/-- Whether an argument list or a run of blanks follows a name can be seen from the first
token. -/
theorem commandLooksAhead_bare {name : String} (fits : ¬ p.maxDepth < p.depth + 1)
    (noBrace : ∀ rest, ts ≠ .leftBrace :: rest) (noSpace : ∀ s rest, ts ≠ .space s :: rest) :
    CommandLooksAhead p (.backslash :: .word name :: ts) (.ok (.command name [], ts) p) := by
  intro node rest q read
  cases read
  refine ⟨name, [], rfl, rfl, by simp, fun rest' head => command_bare fits ?_ ?_⟩
  · rintro more rfl
    obtain ⟨more', same⟩ := List.head?_eq_some_iff.mp head.symm
    exact noBrace more' same
  · rintro s more rfl
    obtain ⟨more', same⟩ := List.head?_eq_some_iff.mp head.symm
    exact noSpace s more' same

theorem readingInvariant_looksAhead :
    ReadingInvariant CommandLooksAhead
      fun p name line ts => LooksAhead (p.arguments name line) ts where
  noBackslash _ _ _ := nofun
  noName _ _ _ := nofun
  tooDeep _ _ _ _ := nofun
  braces p name ts result fits h := h.asCommand fits
  delimited p name s ts fits := by
    intro node rest q read
    cases read
    exact ⟨name, [.space s], rfl, rfl, by simp, fun rest' _ => command_space fits s⟩
  bare p name ts fits noBrace noSpace := commandLooksAhead_bare fits noBrace noSpace
  ended p name line := by
    intro nodes rest q read
    cases read
    refine ⟨[], rfl, by simp, fun rest' head => ?_⟩
    obtain rfl : rest' = [] := List.head?_eq_none_iff.mp head
    exact arguments_nil
  interrupted p name line s ts := by
    intro nodes rest q read
    cases read
    refine ⟨[], rfl, by simp, fun rest' head => ?_⟩
    obtain ⟨more, rfl⟩ := List.head?_eq_some_iff.mp head
    exact arguments_blankLine s
  closed p name line ts := by
    intro nodes rest q read
    cases read
    exact ⟨[.rightBrace], rfl, by simp, fun rest' _ => arguments_rightBrace⟩
  nested p name line ts node rest q result _ commanded h := by
    obtain ⟨name', front, split, -, counted, takes⟩ := commanded node rest q rfl
    refine h.before _ split counted fun rest' head => ?_
    have taken : p.command (.backslash :: .word name' :: front ++ rest') = .ok (node, rest') q :=
      takes rest' head
    simp only [List.cons_append, arguments_backslash] at taken ⊢
    rw [taken]
  refused _ _ _ _ _ _ _ := nofun
  blank p name line s ts result h :=
    h.before [.space s] rfl (by simp) fun _ _ => arguments_space s
  text p name line t ts result isText h := by
    have other : t ≠ .backslash := by
      rintro rfl
      cases isText
    exact h.before [t] rfl (by simp [other]) fun _ _ => arguments_text isText

theorem paragraph_looksAhead (p : Parser) (ts : List Token) :
    LooksAhead p.paragraph ts (p.paragraph ts) := by
  refine paragraph_induction (motive := fun p ts => LooksAhead p.paragraph ts)
    ?nil ?stopped ?command ?refused ?space ?text p ts
  case nil =>
    intro p nodes rest q read
    cases read
    refine ⟨[], rfl, by simp, fun rest' head => ?_⟩
    obtain rfl : rest' = [] := List.head?_eq_none_iff.mp head
    exact paragraph_nil
  case stopped =>
    intro p t ts stops nodes rest q read
    cases read
    refine ⟨[], rfl, by simp, fun rest' head => ?_⟩
    obtain ⟨more, rfl⟩ := List.head?_eq_some_iff.mp head
    exact paragraph_of_stops stops
  case command =>
    intro p ts node rest q result read h
    have commanded := readingInvariant_looksAhead.command p (.backslash :: ts)
    obtain ⟨name, front, split, -, counted, takes⟩ := commanded node rest q read
    refine h.before _ split counted fun rest' head => ?_
    have taken : p.command (.backslash :: .word name :: front ++ rest') = .ok (node, rest') q :=
      takes rest' head
    simp only [List.cons_append, paragraph_backslash] at taken ⊢
    rw [taken]
  case refused => exact fun p ts e q _ => nofun
  case space =>
    intro p s ts result h
    exact h.before [.space s] rfl (by simp) fun _ _ => paragraph_space s
  case text =>
    intro p t ts result like h
    have other : t ≠ .backslash := by
      rintro rfl
      cases like
    exact h.before [t] rfl (by simp [other]) fun _ _ => paragraph_text like

/-- Where nodes have been read, what is left begins with a brace or a blank line, or there is
nothing left. -/
def Stops : Reading (List Node × List Token) → Prop
  | .ok read _ => ∀ t ∈ read.2.head?, t.stopsParagraph = true
  | .error _ _ => True

theorem Stops.map_before {result : Reading (List Node × List Token)} (h : Stops result) :
    Stops (Reading.map (before node) result) := by
  cases result with
  | ok read q => exact h
  | error e q => trivial

theorem paragraph_stops (p : Parser) (ts : List Token) : Stops (p.paragraph ts) := by
  refine paragraph_induction (motive := fun _ _ => Stops)
    ?nil ?stopped ?command ?refused ?space ?text p ts
  case nil => exact fun _ => nofun
  case stopped =>
    rintro p t ts stops t' ⟨⟩
    exact stops
  case command => exact fun _ _ _ _ _ _ _ h => h.map_before
  case refused => exact fun _ _ _ _ _ => trivial
  case space => exact fun _ _ _ _ h => h.map_before
  case text => exact fun _ _ _ _ _ h => h.map_before

/-! ## Readings of any parser -/

theorem commandLookahead (p q : Parser) :
    CommandLookahead fun ts node rest => p.command ts = .ok (node, rest) q :=
  fun ts node rest read => readingInvariant_looksAhead.command p ts node rest q read

theorem paragraphLookahead (p q : Parser) :
    ParagraphLookahead fun ts nodes rest => p.paragraph ts = .ok (nodes, rest) q := by
  intro ts nodes rest read
  obtain ⟨taken, split, counted, takes⟩ := paragraph_looksAhead p ts nodes rest q read
  have stops := paragraph_stops p ts
  rw [read] at stops
  exact ⟨taken, split, stops, counted, takes⟩

/-- What is read by any parser of a family is read by the family. -/
theorem TakesFront.mono {reads reads' : List Token → α → List Token → Prop} {x : α}
    (h : TakesFront reads front x rest) (wider : ∀ ts rest, reads ts x rest → reads' ts x rest) :
    TakesFront reads' front x rest :=
  fun rest' head => wider _ _ (h rest' head)

/-- A command takes a backslash, its name and what belongs to it; a paragraph takes all tokens
up to a brace, a blank line or the end. Both build one command for each backslash that they
take. What is left matters by its first token only: in front of any other tokens that begin
with it, or of none where none are left, the same is read and these are left. So it is
whatever the state of the parser is, which then ends in the same state, and for the parser
with the default limit. -/
theorem remainder_lookahead :
    (∀ p q : Parser, CommandLookahead fun ts node rest => p.command ts = .ok (node, rest) q) ∧
      (∀ p q : Parser,
        ParagraphLookahead fun ts nodes rest => p.paragraph ts = .ok (nodes, rest) q) ∧
      CommandLookahead (fun ts node rest => parseCommand ts = .ok (node, rest)) ∧
      ParagraphLookahead fun ts nodes rest => parseParagraph ts = .ok (nodes, rest) := by
  refine ⟨commandLookahead, paragraphLookahead, ?_, ?_⟩
  · intro ts node rest read
    obtain ⟨q, read⟩ := Reading.toExcept_eq_ok.mp read
    obtain ⟨name, front, split, named, counted, takes⟩ := commandLookahead _ q ts node rest read
    exact ⟨name, front, split, named, counted,
      takes.mono fun _ _ read => Reading.toExcept_eq_ok.mpr ⟨q, read⟩⟩
  · intro ts nodes rest read
    obtain ⟨q, read⟩ := Reading.toExcept_eq_ok.mp read
    obtain ⟨taken, split, stops, counted, takes⟩ := paragraphLookahead _ q ts nodes rest read
    exact ⟨taken, split, stops, counted,
      takes.mono fun _ _ read => Reading.toExcept_eq_ok.mpr ⟨q, read⟩⟩

/-- A list that a blank line leaves open, with a bare command in front of the blank line. -/
theorem remainder_lookahead_leftOpen :
    let taken : List Token := [.backslash, .word "b", .leftBrace, .word "x", .backslash, .word "i"]
    let node : Node := .command "b" [.text "x", .command "i" []]
    parseCommand (taken ++ [.blankLine "\n\n", .word "z"]) =
        .ok (node, [.blankLine "\n\n", .word "z"]) ∧
      Node.commandCount [node] = 2 ∧ taken.count .backslash = 2 ∧
      parseCommand (taken ++ [.blankLine "\n\n", .rightBrace, .space " "]) =
        .ok (node, [.blankLine "\n\n", .rightBrace, .space " "]) := by
  intro taken node
  have read : parseCommand (taken ++ [.blankLine "\n\n", .word "z"]) =
      .ok (node, [.blankLine "\n\n", .word "z"]) :=
    Reading.toExcept_eq_ok.mpr ⟨⟨defaultMaxDepth, 0, 1, [⟨"b", 1⟩]⟩, by decide +kernel⟩
  obtain ⟨-, -, ahead, -⟩ := remainder_lookahead
  obtain ⟨name, front, split, -, counted, takes⟩ := ahead _ _ _ read
  rw [← List.append_cancel_right split] at counted takes
  exact ⟨read, counted, rfl, takes _ rfl⟩

end Parser

end TexMarkup
