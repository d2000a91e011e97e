import TexMarkup.Proofs.Parser.Refinement
import TexMarkup.Proofs.Parser.Lines

/-!
# Where the lines of a reading come from

The tokens in front of a backslash tell where its command begins. The lists that are open
somewhere, the lists that the ends of paragraphs leave open, and the first backslash that
cannot be read are told here from the tokens alone. The stack machine is followed token
by token: the line that it notes for a list is that of the backslash in front of the list,
and the line of an error is that of the backslash that cannot be read.

## Main definitions

* `Start`: where a command begins.
* `openLists`, `leftOpen`: the lists that are open, and those that have been left open.
* `Offends`, `offence`, `Readable`: backslashes that cannot be read, their errors, and tokens
  without any.
* `Machine.Tracks`: the machine after some tokens.
* `Machine.TrackedInvariant`: a property that is shown step by step along a run that is followed
  token by token.

## Main results

* `Machine.TrackedInvariant.holds_run`: such a property holds of runs.
* `Machine.run_located`: the closes of a run, or its error, from the tokens alone.
* `Machine.run_traced_fresh`: the lines of the closes and of the error of a run.
-/

namespace TexMarkup

/-- Where a command begins: the tokens in front of its backslash, and its name. -/
structure Start where
  /-- The tokens in front of the backslash. -/
  before : List Token
  /-- The word after the backslash. -/
  name : String

/-- The argument lists that are open after some tokens, the innermost first. The tokens
are given from the last one back: an opening brace opens a list if a command's name
stands right in front of it. -/
def openLists : List Token → List Start
  | .leftBrace :: .word name :: .backslash :: read => ⟨read.reverse, name⟩ :: openLists read
  | .rightBrace :: read => (openLists read).tail
  | .blankLine _ :: _ => []
  | _ :: read => openLists read
  | [] => []

/-- The argument lists that blank lines have left open, in the order in which they are
closed. The tokens are given from the last one back. -/
def leftOpen : List Token → List Start
  | .blankLine _ :: read => leftOpen read ++ openLists read
  | _ :: read => leftOpen read
  | [] => []

/-- All argument lists that the ends of their paragraphs leave open, in the order in which
they are closed; the last paragraph ends with the tokens. -/
def implicitlyClosed (ts : List Token) : List Start :=
  leftOpen ts.reverse ++ openLists ts.reverse

/-- A backslash between the tokens cannot be read: no word follows it, or its command lies
inside of as many others as are allowed. -/
def Offends (maxDepth : Nat) (before after : List Token) : Prop :=
  (∀ name rest, after ≠ .word name :: rest) ∨ maxDepth < (openLists before.reverse).length + 1

/-- The error of a backslash that cannot be read. A paragraph ends with its tokens, so that a
backslash in front of a blank line has the end of the input after it. -/
def offence (maxDepth : Nat) (before : List Token) : List Token → ParseError
  | .word _ :: _ => .nestingTooDeep (1 + newlines before) maxDepth
  | found => Machine.missingName { maxDepth, line := 1 + newlines before } found

/-- Every backslash among the first tokens can be read. -/
def Readable (maxDepth : Nat) (ts : List Token) (count : Nat) : Prop :=
  ∀ before after, ts = before ++ .backslash :: after → before.length < count →
    ¬ Offends maxDepth before after

/-- The close of a list that began on the line of its backslash. -/
def Start.close (start : Start) : ImplicitClose :=
  ⟨start.name, 1 + newlines start.before⟩

/-- The close of an open list. -/
def OpenList.close (list : OpenList) : ImplicitClose :=
  ⟨list.name, list.line⟩

variable {maxDepth : Nat} {name : String} {t : Token} {ts read : List Token}

/-! ## Tokens one by one -/

/-- One more token has been read, and if it is a backslash, it can be read. -/
theorem Readable.cons (h : Readable maxDepth (read.reverse ++ t :: ts) read.length)
    (readable : t = .backslash → ¬ Offends maxDepth read.reverse ts) :
    Readable maxDepth (read.reverse ++ t :: ts) (t :: read).length := by
  intro before after split short
  rcases Nat.lt_succ_iff_lt_or_eq.mp short with short | same
  · exact h before after split short
  · -- The backslash is the token that has been added.
    obtain ⟨rfl, added⟩ := List.append_inj split (by rw [List.length_reverse, same])
    obtain ⟨isBackslash, rfl⟩ := List.cons_eq_cons.mp added
    exact readable isBackslash

/-- What has been read does not end inside of the beginning of a command: not with its
backslash, and with its name only if no list is opened for it. -/
def AtBoundary (read ts : List Token) : Prop :=
  read.head? ≠ some .backslash ∧
    ∀ name before rest, read = .word name :: .backslash :: before → ts ≠ .leftBrace :: rest

theorem AtBoundary.of_noWord (noBackslash : t ≠ .backslash) (noWord : ∀ name, t ≠ .word name) :
    AtBoundary (t :: read) ts :=
  ⟨fun same => noBackslash (Option.some.inj same),
    fun name _ _ same => absurd (List.cons_eq_cons.mp same).1 (noWord name)⟩

/-- A text ends no beginning of a command, unless it is the name. -/
theorem AtBoundary.text (h : AtBoundary read (t :: ts)) (noBackslash : t ≠ .backslash) :
    AtBoundary (t :: read) ts := by
  refine ⟨fun same => noBackslash (Option.some.inj same), fun name before rest same => ?_⟩
  rw [(List.cons_eq_cons.mp same).2] at h
  exact absurd rfl h.1

/-- A text that does not stand behind the name of a command changes no list. -/
theorem openLists_text (h : AtBoundary read (t :: ts)) (isText : t.isArgumentText = true) :
    openLists (t :: read) = openLists read := by
  cases t with
  | leftBrace =>
    rw [openLists]
    · exact fun name before _ same => h.2 name before ts same rfl
    all_goals nofun
  | backslash | rightBrace | blankLine s | space s => exact absurd isText Bool.false_ne_true
  | _ => rfl

/-- An error is on the line of its backslash. -/
theorem offence_line (maxDepth : Nat) (before after : List Token) :
    (offence maxDepth before after).line = 1 + newlines before := by
  rw [offence.eq_def]
  split
  · rfl
  · rw [Machine.missingName.eq_def]
    split <;> rfl

theorem leftOpen_of_noBlankLine (noBlankLine : t.isBlankLine = false) :
    leftOpen (t :: read) = leftOpen read := by
  cases t with
  | blankLine s => exact absurd noBlankLine.symm Bool.false_ne_true
  | _ => rfl

namespace Machine

variable {m m' : Machine}

/-! ## Closing lists -/

theorem append_map_close (node : Node) :
    (m.append node).stack.map OpenList.close = m.stack.map OpenList.close := by
  rw [append]
  split
  · rfl
  · rename_i top below stack
    rw [stack]
    rfl

/-- A list that is closed implicitly is noted, so noted and open lists together stay the same. -/
theorem closeImplicitly_closes (m : Machine) :
    m.closeImplicitly.closes ++ m.closeImplicitly.stack.map OpenList.close =
      m.closes ++ m.stack.map OpenList.close := by
  rw [closeImplicitly]
  split
  · rfl
  · rename_i top below stack
    have kept (m : Machine) (node : Node) : (m.append node).closes = m.closes := by
      rw [append]; split <;> rfl
    simp only [append_map_close, kept, stack, List.map_cons, List.append_assoc,
      List.singleton_append]
    rfl

/-- At the end of a paragraph every list that is open is noted, the innermost first. -/
theorem closeAll_closes (m : Machine) :
    m.closeAll.closes = m.closes ++ m.stack.map OpenList.close := by
  have noted : m.closeAll.closes ++ m.closeAll.stack.map OpenList.close =
      m.closes ++ m.stack.map OpenList.close :=
    Function.Iterate.rec
      (fun m' : Machine => m'.closes ++ m'.stack.map OpenList.close =
        m.closes ++ m.stack.map OpenList.close)
      rfl (fun m' h => (closeImplicitly_closes m').trans h) m.stack.length
  rwa [closeAll_stack, List.map_nil, List.append_nil] at noted

/-! ## The machine after some tokens -/

/-- The machine is on the line to which the tokens lead, and it knows the lists that they
leave open with the lines of their commands. The tokens are given from the last one back. -/
structure Tracks (maxDepth : Nat) (m : Machine) (read : List Token) : Prop where
  maxDepth : m.maxDepth = maxDepth
  line : m.line = 1 + newlines read.reverse
  lists : m.stack.map OpenList.close = (openLists read).map Start.close
  closes : m.closes = (leftOpen read).map Start.close

/-- The machine is as deep as lists are open. -/
theorem Tracks.depth (h : m.Tracks maxDepth read) : m.stack.length = (openLists read).length := by
  have lengths := congrArg List.length h.lists
  rwa [List.length_map, List.length_map] at lengths

theorem Tracks.append (h : m.Tracks maxDepth read) (node : Node) :
    (m.append node).Tracks maxDepth read := by
  refine ⟨?_, ?_, (append_map_close node).trans h.lists, ?_⟩
  · rw [← h.maxDepth, Machine.append]; split <;> rfl
  · rw [← h.line, Machine.append]; split <;> rfl
  · rw [← h.closes, Machine.append]; split <;> rfl

/-- A token that opens and ends nothing. -/
theorem Tracks.advance (h : m.Tracks maxDepth read)
    (sameLists : openLists (t :: read) = openLists read) (noBlankLine : t.isBlankLine = false) :
    (m.advance t).Tracks maxDepth (t :: read) := by
  refine ⟨h.maxDepth, ?_, ?_, ?_⟩
  · rw [Machine.advance, h.line]
    simp only [List.reverse_cons, newlines_append, newlines_cons, newlines_nil, Nat.add_zero,
      Nat.add_assoc]
  · rw [sameLists]
    exact h.lists
  · rw [leftOpen_of_noBlankLine noBlankLine]
    exact h.closes

/-- The name of a command without a list. -/
theorem Tracks.named (h : m.Tracks maxDepth read) (name : String) :
    m.Tracks maxDepth (.word name :: .backslash :: read) :=
  (h.advance (t := .backslash) rfl rfl).advance (t := .word name) rfl rfl

/-- The name of a command and a run of blanks that sets it off. -/
theorem Tracks.delimited (h : m.Tracks maxDepth read) (name s : String) :
    ((m.append (.command name [])).advance (.space s)).Tracks maxDepth
      (.space s :: .word name :: .backslash :: read) :=
  ((h.named name).append (.command name [])).advance (t := .space s) rfl rfl

/-- A text that does not stand behind the name of a command. -/
theorem Tracks.text (h : m.Tracks maxDepth read) (boundary : AtBoundary read (t :: ts))
    (isText : t.isArgumentText = true) : (m.append (.text t.text)).Tracks maxDepth (t :: read) := by
  have noBlankLine := Token.isBlankLine_of_isArgumentText isText
  have advanced := (h.append (.text t.text)).advance (openLists_text boundary isText) noBlankLine
  -- A text ends no line, so the machine is where it was.
  have still (m : Machine) : m.advance t = m := by
    rw [Machine.advance, Token.newlineCount_of_isArgumentText isText, Nat.add_zero]
  rwa [still] at advanced

/-- A list is put on the stack with the line of its command. -/
theorem Tracks.push (h : m.Tracks maxDepth read) (name : String) :
    (m.push ⟨name, m.line, []⟩).Tracks maxDepth
      (.leftBrace :: .word name :: .backslash :: read) := by
  refine ⟨h.maxDepth, ?_, ?_, h.closes⟩
  · rw [Machine.push, h.line]
    simp [Token.newlineCount]
  · rw [Machine.push, List.map_cons, h.lists, openLists, List.map_cons, Start.close, OpenList.close,
      h.line]

/-- A closing brace takes away the innermost open list, if there is one. -/
theorem Tracks.close (h : m.Tracks maxDepth read) :
    m.close.Tracks maxDepth (.rightBrace :: read) := by
  have line : m.line = 1 + newlines (Token.rightBrace :: read).reverse := by
    rw [h.line]
    simp [Token.newlineCount]
  have lists := congrArg List.tail h.lists
  rw [← List.map_tail, ← List.map_tail] at lists
  rw [Machine.close]
  split
  · rename_i stack
    rw [stack] at lists
    have same : m.Tracks maxDepth (.rightBrace :: read) :=
      ⟨h.maxDepth, line, by rw [stack]; exact lists, h.closes⟩
    exact same.append _
  · rename_i top below stack
    rw [stack] at lists
    have left : Tracks maxDepth { m with stack := below } (.rightBrace :: read) :=
      ⟨h.maxDepth, line, lists, h.closes⟩
    exact left.append _

/-- The end of a paragraph notes the lists that are open and leaves none. -/
theorem endParagraph_spec (m : Machine) :
    m.endParagraph.maxDepth = m.maxDepth ∧ m.endParagraph.line = m.line ∧
      m.endParagraph.stack = [] ∧
      m.endParagraph.closes = m.closes ++ m.stack.map OpenList.close := by
  have kept : m.closeAll.maxDepth = m.maxDepth ∧ m.closeAll.line = m.line :=
    Function.Iterate.rec
      (fun m' : Machine => m'.maxDepth = m.maxDepth ∧ m'.line = m.line) ⟨rfl, rfl⟩
      (fun m' h => by
        rw [closeImplicitly.eq_def]
        simp only [Machine.append]
        split
        · exact h
        · split <;> exact h)
      m.stack.length
  exact ⟨kept.1, kept.2, closeAll_stack m, closeAll_closes m⟩

/-- A blank line leaves all open lists behind. -/
theorem Tracks.blankLine (h : m.Tracks maxDepth read) (s : String) :
    (m.endParagraph.advance (.blankLine s)).Tracks maxDepth (.blankLine s :: read) := by
  obtain ⟨limit, line, stack, closes⟩ := endParagraph_spec m
  refine ⟨limit.trans h.maxDepth, ?_, ?_, ?_⟩
  · show m.endParagraph.line + _ = _
    rw [line, h.line]
    simp [Nat.add_assoc]
  · show m.endParagraph.stack.map _ = _
    rw [stack, openLists]
    rfl
  · show m.endParagraph.closes = _
    rw [closes, h.closes, h.lists, leftOpen, List.map_append]

/-! ## Runs -/

/-- A run that began behind some tokens ends on the line to which all tokens lead, with a
close for every list that was left open, or with an error on the line of the first
backslash that cannot be read. -/
def Traced (maxDepth : Nat) (tokens : List Token) : Except ParseError Machine → Prop
  | .ok m => m.line = 1 + newlines tokens ∧ m.closes = (implicitlyClosed tokens).map Start.close
  | .error e => ∃ before after, tokens = before ++ .backslash :: after ∧
    Offends maxDepth before after ∧ Readable maxDepth tokens before.length ∧
    e.line = 1 + newlines before

/-- A name and room for its command are all that a backslash needs. -/
theorem Tracks.not_offends (h : m.Tracks maxDepth read)
    (fits : ¬ m.maxDepth < m.stack.length + 1) :
    ¬ Offends maxDepth read.reverse (.word name :: ts) := by
  rintro (noName | deep)
  · exact noName name ts rfl
  · rw [List.reverse_reverse, ← h.depth, ← h.maxDepth] at deep
    exact fits deep

theorem Tracks.offends (h : m.Tracks maxDepth read) (deep : m.maxDepth < m.stack.length + 1)
    (after : List Token) : Offends maxDepth read.reverse after := by
  refine .inr ?_
  rwa [List.reverse_reverse, ← h.depth, ← h.maxDepth]

/-- A property of runs that are followed token by token: the tokens that the machine takes are
moved to what has been read, and where it is then, it knows the lists that they leave open. The
property holds of runs that end at once, and passes from the rest of a run to the whole. -/
structure TrackedInvariant (maxDepth : Nat)
    (holds : Machine → List Token → List Token → Except ParseError Machine → Prop) : Prop where
  /-- The last paragraph ends with the tokens. -/
  ended : ∀ (m : Machine) read, m.Tracks maxDepth read → holds m read [] (.ok m.endParagraph)
  /-- A paragraph ends with a blank line. -/
  blankLine : ∀ (m : Machine) read s ts result, m.Tracks maxDepth read →
    holds (m.endParagraph.advance (.blankLine s)) (.blankLine s :: read) ts result →
    holds m read (.blankLine s :: ts) result
  /-- A command lies inside of too many others. -/
  tooDeep : ∀ (m : Machine) read name ts, m.Tracks maxDepth read →
    m.maxDepth < m.stack.length + 1 →
    holds m read (.backslash :: .word name :: ts) (.error (.nestingTooDeep m.line m.maxDepth))
  /-- A command has an argument list. -/
  leftBrace : ∀ (m : Machine) read name ts result, m.Tracks maxDepth read →
    ¬ m.maxDepth < m.stack.length + 1 →
    holds (m.push ⟨name, m.line, []⟩) (.leftBrace :: .word name :: .backslash :: read) ts result →
    holds m read (.backslash :: .word name :: .leftBrace :: ts) result
  /-- A run of blanks sets a command off. -/
  delimited : ∀ (m : Machine) read name s ts result, m.Tracks maxDepth read →
    ¬ m.maxDepth < m.stack.length + 1 →
    holds ((m.append (.command name [])).advance (.space s))
      (.space s :: .word name :: .backslash :: read) ts result →
    holds m read (.backslash :: .word name :: .space s :: ts) result
  /-- A command ends with its name. -/
  bare : ∀ (m : Machine) read name ts result, m.Tracks maxDepth read →
    ¬ m.maxDepth < m.stack.length + 1 →
    holds (m.append (.command name [])) (.word name :: .backslash :: read) ts result →
    holds m read (.backslash :: .word name :: ts) result
  /-- No name follows a backslash. -/
  nameMissing : ∀ (m : Machine) read ts, m.Tracks maxDepth read →
    (∀ name rest, ts ≠ .word name :: rest) →
    holds m read (.backslash :: ts) (.error (m.missingName ts))
  /-- A run of blanks is a space. -/
  space : ∀ (m : Machine) read s ts result, m.Tracks maxDepth read →
    holds ((m.append .space).advance (.space s)) (.space s :: read) ts result →
    holds m read (.space s :: ts) result
  /-- A brace closes a list, or is text where none is open. -/
  rightBrace : ∀ (m : Machine) read ts result, m.Tracks maxDepth read →
    holds m.close (.rightBrace :: read) ts result → holds m read (.rightBrace :: ts) result
  /-- Every other token is text. -/
  text : ∀ (m : Machine) read t ts result, m.Tracks maxDepth read → t.isArgumentText = true →
    holds (m.append (.text t.text)) (t :: read) ts result → holds m read (t :: ts) result

/-- An invariant holds of every run of a machine that is followed from where it is. -/
theorem TrackedInvariant.holds_run
    {holds : Machine → List Token → List Token → Except ParseError Machine → Prop}
    (invariant : TrackedInvariant maxDepth holds) (h : m.Tracks maxDepth read)
    (boundary : AtBoundary read ts) : holds m read ts (m.run ts) := by
  -- One case for each equation of `run`.
  induction m, ts using run.induct generalizing read with
  | case1 m =>
    rw [run]
    exact invariant.ended m read h
  | case2 m s ts ih =>
    rw [run]
    exact invariant.blankLine m read s ts _ h (ih (h.blankLine s) (.of_noWord (by simp) (by simp)))
  | case3 m name ts deep =>
    rw [run_of_tooDeep deep]
    exact invariant.tooDeep m read name ts h deep
  | case4 m name fits ts ih =>
    rw [run_leftBrace fits]
    exact invariant.leftBrace m read name ts _ h fits
      (ih (h.push name) (.of_noWord (by simp) (by simp)))
  | case5 m name fits s ts ih =>
    rw [run_delimited fits]
    exact invariant.delimited m read name s ts _ h fits
      (ih (h.delimited name s) (.of_noWord (by simp) (by simp)))
  | case6 m name fits ts noBrace noSpace ih =>
    rw [run_bare fits noBrace noSpace]
    exact invariant.bare m read name ts _ h fits
      (ih ((h.named name).append _) ⟨by simp, fun _ _ rest _ => noBrace rest⟩)
  | case7 m ts noName =>
    rw [run_of_name_missing noName]
    exact invariant.nameMissing m read ts h noName
  | case8 m s ts ih =>
    rw [run]
    exact invariant.space m read s ts _ h
      (ih ((h.append .space).advance rfl rfl) (.of_noWord (by simp) (by simp)))
  | case9 m ts ih =>
    rw [run]
    exact invariant.rightBrace m read ts _ h (ih h.close (.of_noWord (by simp) (by simp)))
  | case10 m t ts noBlankLine _ noBackslash noSpace noBrace ih =>
    have isText := Token.isArgumentText_of_ne noBlankLine noBackslash noSpace noBrace
    rw [run_text isText]
    exact invariant.text m read t ts _ h isText
      (ih (h.text boundary isText) (boundary.text noBackslash))

theorem tracks_fresh (maxDepth : Nat) : Tracks maxDepth { maxDepth } [] :=
  ⟨rfl, rfl, rfl, rfl⟩

theorem atBoundary_nil (ts : List Token) : AtBoundary [] ts :=
  ⟨nofun, nofun⟩

/-- The machine reports a missing name as the tokens tell it. -/
theorem missingName_eq_offence (h : m.Tracks maxDepth read)
    (noName : ∀ name rest, ts ≠ .word name :: rest) :
    m.missingName ts = offence maxDepth read.reverse ts := by
  rw [offence]
  · rw [missingName.eq_def, missingName.eq_def, h.line]
  · exact fun name rest same => noName name rest same

/-- A run reads every backslash, or ends with the error of the first one that cannot be
read. -/
def Located (maxDepth : Nat) (tokens : List Token) : Except ParseError Machine → Prop
  | .ok m => Readable maxDepth tokens tokens.length ∧ m.line = 1 + newlines tokens ∧
    m.closes = (implicitlyClosed tokens).map Start.close
  | .error e => ∃ before after, tokens = before ++ .backslash :: after ∧
    Offends maxDepth before after ∧ Readable maxDepth tokens before.length ∧
    e = offence maxDepth before after

/-- The rest of a run locates the whole of it, if all that has been read can be read. -/
def LocatesRest (maxDepth : Nat) (read ts : List Token) (result : Except ParseError Machine) :
    Prop :=
  Readable maxDepth (read.reverse ++ ts) read.length →
    Located maxDepth (read.reverse ++ ts) result

/-- The first token of the rest has been read too, if it is no backslash that cannot be read. -/
theorem LocatesRest.cons {result : Except ParseError Machine}
    (h : LocatesRest maxDepth (t :: read) ts result)
    (readable : t = .backslash → ¬ Offends maxDepth read.reverse ts) :
    LocatesRest maxDepth read (t :: ts) result := by
  have whole : (t :: read).reverse ++ ts = read.reverse ++ t :: ts := by
    rw [List.reverse_cons, List.append_assoc, List.singleton_append]
  rw [LocatesRest, whole] at h
  exact fun soFar => h (soFar.cons readable)

theorem LocatesRest.cons_of_ne {result : Except ParseError Machine}
    (h : LocatesRest maxDepth (t :: read) ts result) (noBackslash : t ≠ .backslash) :
    LocatesRest maxDepth read (t :: ts) result :=
  h.cons fun same => absurd same noBackslash

/-- The rest of every run locates the whole. -/
theorem trackedInvariant_locatesRest (maxDepth : Nat) :
    TrackedInvariant maxDepth fun _ => LocatesRest maxDepth where
  ended m read h readable := by
    obtain ⟨-, line, -, closes⟩ := endParagraph_spec m
    rw [List.append_nil] at readable ⊢
    refine ⟨by rwa [List.length_reverse], by rw [line, h.line], ?_⟩
    rw [closes, h.closes, h.lists, ← List.map_append, implicitlyClosed, List.reverse_reverse]
  blankLine _ _ _ _ _ _ rest := rest.cons_of_ne (by simp)
  tooDeep m read name ts h deep readable := by
    refine ⟨read.reverse, .word name :: ts, rfl, h.offends deep _, by simpa using readable, ?_⟩
    rw [offence, h.line, h.maxDepth]
  leftBrace _ _ _ _ _ h fits rest :=
    ((rest.cons_of_ne (by simp)).cons_of_ne (by simp)).cons fun _ => h.not_offends fits
  delimited _ _ _ _ _ _ h fits rest :=
    ((rest.cons_of_ne (by simp)).cons_of_ne (by simp)).cons fun _ => h.not_offends fits
  bare _ _ _ _ _ h fits rest := (rest.cons_of_ne (by simp)).cons fun _ => h.not_offends fits
  nameMissing m read ts h noName readable :=
    ⟨read.reverse, ts, rfl, .inl noName, by simpa using readable, missingName_eq_offence h noName⟩
  space _ _ _ _ _ _ rest := rest.cons_of_ne (by simp)
  rightBrace _ _ _ _ _ rest := rest.cons_of_ne (by simp)
  text _ _ _ _ _ _ isText rest := by
    refine rest.cons_of_ne ?_
    rintro rfl
    exact absurd isText Bool.false_ne_true

/-- Every run is located. -/
theorem run_located (maxDepth : Nat) (ts : List Token) :
    Located maxDepth ts (run { maxDepth } ts) :=
  (trackedInvariant_locatesRest maxDepth).holds_run (tracks_fresh maxDepth) (atBoundary_nil ts)
    fun _ _ _ short => absurd short (Nat.not_lt_zero _)

/-- The run of a fresh machine is traced. -/
theorem run_traced_fresh (maxDepth : Nat) (ts : List Token) :
    Traced maxDepth ts (run { maxDepth } ts) := by
  have located := run_located maxDepth ts
  cases ran : run { maxDepth } ts with
  | ok m =>
    rw [ran] at located
    exact located.2
  | error e =>
    rw [ran] at located
    obtain ⟨before, after, split, offends, readable, rfl⟩ := located
    exact ⟨before, after, split, offends, readable, offence_line maxDepth before after⟩

end Machine

end TexMarkup
