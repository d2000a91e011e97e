import Mathlib.Logic.Function.Iterate
import TexMarkup.Proofs.Parser.Reading

/-!
# A stack machine that reads documents

The machine goes once through the tokens, from left to right. Instead of calling
itself for the commands inside a command, it keeps the argument lists that are
open on a stack.

## Main definitions

* `OpenList`, `Machine`: an open argument list, and the state of the machine.
* `Machine.run`: what the machine makes of a list of tokens.
* `Machine.read`: the document and the implicit closes of a list of tokens, or the
  first error in it.

## Main results

* `Machine.closeAll_of_stack_cons`, `Machine.closeAll_stack`: the end of a
  paragraph closes the innermost list first, and in the end all of them.
* `Machine.run_leftBrace`, `Machine.run_delimited`, `Machine.run_bare`: what
  follows a command decides whether a list is opened for it.
-/

namespace TexMarkup

/-- An argument list that is open. -/
structure OpenList where
  /-- The command whose arguments are listed. -/
  name : String
  /-- The line on which the command started. -/
  line : Nat
  /-- The arguments read so far. -/
  children : List Node

/-- The state of the machine. -/
structure Machine where
  /-- How many argument lists may be open. -/
  maxDepth : Nat
  /-- The current line, counted from one. -/
  line : Nat := 1
  /-- The lists closed by the end of their paragraph, in that order. -/
  closes : List ImplicitClose := []
  /-- The paragraphs that have ended. -/
  paragraphs : List Paragraph := []
  /-- The nodes of the current paragraph outside of all open lists. -/
  nodes : List Node := []
  /-- The open lists, the innermost first. -/
  stack : List OpenList := []

namespace Machine

/-! ## The operations -/

/-- The machine on the line that a token leads to. -/
def advance (m : Machine) (t : Token) : Machine :=
  { m with line := m.line + t.newlineCount }

/-- Adds a node to the innermost open list, or to the paragraph if none is open. -/
def append (m : Machine) (node : Node) : Machine :=
  match m.stack with
  | [] => { m with nodes := m.nodes ++ [node] }
  | top :: below => { m with stack := { top with children := top.children ++ [node] } :: below }

/-- Puts a list on the stack. -/
def push (m : Machine) (list : OpenList) : Machine :=
  { m with stack := list :: m.stack }

/-- A closing brace ends the innermost list. Where none is open it is text. -/
def close (m : Machine) : Machine :=
  match m.stack with
  | [] => m.append (.text Token.rightBrace.text)
  | top :: below =>
    let left : Machine := { m with stack := below }
    left.append (.command top.name top.children)

/-- Ends the innermost list, if one is open, and takes note of it. -/
def closeImplicitly (m : Machine) : Machine :=
  match m.stack with
  | [] => m
  | top :: below =>
    let left : Machine :=
      { m with stack := below, closes := m.closes ++ [⟨top.name, top.line⟩] }
    left.append (.command top.name top.children)

/-- Ends every open list, the innermost first. -/
def closeAll (m : Machine) : Machine :=
  closeImplicitly^[m.stack.length] m

/-- Ends the paragraph with all of its open lists. -/
def endParagraph (m : Machine) : Machine :=
  { m.closeAll with
    paragraphs := m.closeAll.paragraphs ++ [⟨Parser.trimSpaces m.closeAll.nodes⟩]
    nodes := [] }

/-- The error of a backslash that is followed by these tokens instead of a name. -/
def missingName (m : Machine) : List Token → ParseError
  | [] | .blankLine _ :: _ => .missingCommandName m.line "end of input"
  | found :: _ => .missingCommandName m.line found.describe

/-- What the machine makes of the tokens. It looks at most two tokens ahead. -/
def run (m : Machine) : List Token → Except ParseError Machine
  | [] => .ok m.endParagraph
  | .blankLine s :: ts => (m.endParagraph.advance (.blankLine s)).run ts
  | .backslash :: .word name :: ts =>
    -- A command that opens no list counts as one too.
    if m.maxDepth < m.stack.length + 1 then .error (.nestingTooDeep m.line m.maxDepth)
    else
      match ts with
      | .leftBrace :: ts => (m.push ⟨name, m.line, []⟩).run ts
      -- One run of blanks only sets the name off from what follows.
      | .space s :: ts => ((m.append (.command name [])).advance (.space s)).run ts
      | ts => (m.append (.command name [])).run ts
  | .backslash :: ts => .error (m.missingName ts)
  | .space s :: ts => ((m.append .space).advance (.space s)).run ts
  | .rightBrace :: ts => m.close.run ts
  -- An opening brace that follows no name is text as well.
  | t :: ts => (m.append (.text t.text)).run ts

/-- The document of the tokens and the lists closed implicitly in it, or the first
error. -/
def read (maxDepth : Nat) (ts : List Token) : Except ParseError (Document × List ImplicitClose) :=
  (run { maxDepth } ts).map fun m => (⟨m.paragraphs⟩, m.closes)

/-! ## Closing lists -/

variable {m : Machine}

theorem append_stack_length (node : Node) : (m.append node).stack.length = m.stack.length := by
  unfold append
  split
  · rename_i empty
    simp only [empty]
  · rename_i nonempty
    simp only [nonempty, List.length_cons]

theorem closeAll_of_stack_nil (empty : m.stack = []) : m.closeAll = m := by
  rw [closeAll, empty]
  rfl

/-- One list is closed, if any is open. -/
theorem closeImplicitly_stack_length (m : Machine) :
    m.closeImplicitly.stack.length = m.stack.length - 1 := by
  rw [closeImplicitly]
  split
  · rename_i empty
    rw [empty]
    rfl
  · rename_i nonempty
    rw [append_stack_length, nonempty]
    rfl

/-- The innermost list is closed first. -/
theorem closeAll_of_stack_cons {top : OpenList} {below : List OpenList}
    (nonempty : m.stack = top :: below) : m.closeAll = m.closeImplicitly.closeAll := by
  have shorter : m.closeImplicitly.stack.length = below.length := by
    rw [closeImplicitly_stack_length, nonempty]
    rfl
  rw [closeAll, closeAll, shorter, nonempty, List.length_cons, Function.iterate_succ_apply]

/-- No list stays open at the end of a paragraph. -/
theorem closeAll_stack (m : Machine) : m.closeAll.stack = [] := by
  induction len : m.stack.length generalizing m with
  | zero =>
    have empty := List.eq_nil_of_length_eq_zero len
    rw [closeAll_of_stack_nil empty, empty]
  | succ n ih =>
    obtain ⟨top, below, nonempty⟩ := List.exists_cons_of_length_eq_add_one len
    rw [closeAll_of_stack_cons nonempty]
    exact ih _ (by rw [closeImplicitly_stack_length, len, Nat.add_sub_cancel])

/-- At the end of a paragraph it makes no difference whether the innermost list has
been closed already. -/
theorem endParagraph_closeImplicitly {top : OpenList} {below : List OpenList}
    (nonempty : m.stack = top :: below) : m.closeImplicitly.endParagraph = m.endParagraph := by
  rw [endParagraph, endParagraph, closeAll_of_stack_cons nonempty]

/-! ## Runs, by the first tokens -/

variable {name : String} {t : Token} {ts : List Token}

/-- A backslash without a word behind it ends the run. -/
theorem run_of_name_missing (found : ∀ name rest, ts ≠ .word name :: rest) :
    m.run (.backslash :: ts) = .error (m.missingName ts) := by
  rw [run]
  exact fun name rest same => found name rest same

/-- So does a command inside of too many lists. -/
theorem run_of_tooDeep (deep : m.maxDepth < m.stack.length + 1) :
    m.run (.backslash :: .word name :: ts) = .error (.nestingTooDeep m.line m.maxDepth) := by
  rw [run.eq_def]
  simp only [if_pos deep]

/-- A brace right behind the name puts a list on the stack. -/
theorem run_leftBrace (fits : ¬ m.maxDepth < m.stack.length + 1) :
    m.run (.backslash :: .word name :: .leftBrace :: ts) =
      (m.push ⟨name, m.line, []⟩).run ts := by
  rw [run, if_neg fits]

theorem run_delimited (fits : ¬ m.maxDepth < m.stack.length + 1) (s : String) :
    m.run (.backslash :: .word name :: .space s :: ts) =
      ((m.append (.command name [])).advance (.space s)).run ts := by
  rw [run, if_neg fits]

/-- Any other token behind the name is left for the next step. -/
theorem run_bare (fits : ¬ m.maxDepth < m.stack.length + 1)
    (noBrace : ∀ rest, ts ≠ .leftBrace :: rest) (noSpace : ∀ s rest, ts ≠ .space s :: rest) :
    m.run (.backslash :: .word name :: ts) = (m.append (.command name [])).run ts := by
  rw [run, if_neg fits]
  · exact fun rest same => noBrace rest same
  · exact fun s rest same => noSpace s rest same

theorem run_text (isText : t.isArgumentText = true) :
    m.run (t :: ts) = (m.append (.text t.text)).run ts := by
  cases t <;> first | rfl | exact absurd isText Bool.false_ne_true

end Machine

end TexMarkup
