import TexMarkup.Lint
import TexMarkup.Proofs.Document.Names
import TexMarkup.Proofs.Document.Separator

/-!
# Reported lines are source lines

Errors, implicit closes and warnings about unknown commands carry the line on which the
backslash of their command stands in the source. The parser counts lines while it reads,
and the check of a text counts them again; both arrive at the lines of the text.

## Main definitions

* `lineAt`: the line of a position in a text.
* `position`: where some tokens end in a text.

## Main results

* `unknownCommands_eq`: the warnings of a check, backslash by backslash.
* `checkMarkup_diagnostics`: the findings in a text.
* `reportedLines_eq_sourceLines`: the lines of errors, closes and warnings.
-/

namespace TexMarkup

/-- The line of a position in a text, counted from one. Carriage returns are no part of
the text. -/
def lineAt (text : String) (position : Nat) : Nat :=
  1 + ((stripCarriageReturns text).toList.take position).count '\n'

/-- Where the tokens end in the text that begins with them. -/
def position (before : List Token) : Nat :=
  (concat before).toList.length

/-- The command begins in the tokens. -/
def Start.In (start : Start) (ts : List Token) : Prop :=
  ∃ after, ts = start.before ++ .backslash :: .word start.name :: after

variable {text : String} {ts read before after : List Token} {start : Start} {r : Report}

/-! ## Places in a text -/

/-- The newlines of the first tokens are those in front of where they end. -/
theorem lineAt_position (split : tokenize text = before ++ after) :
    lineAt text (position before) = 1 + newlines before := by
  obtain ⟨same, canonical, -⟩ := tokenize_spec text
  have wellFormed : ∀ t ∈ before, t.WellFormed :=
    fun t mem => canonical t (split ▸ List.mem_append_left _ mem)
  rw [lineAt, position, ← same, split, concat_append, String.toList_append, List.take_left,
    newlines_eq_count wellFormed]

theorem Start.In.lineAt (h : start.In (tokenize text)) :
    lineAt text (position start.before) = 1 + newlines start.before := by
  obtain ⟨after, split⟩ := h
  exact lineAt_position split

theorem Start.In.append (h : start.In ts) (after : List Token) : start.In (ts ++ after) := by
  obtain ⟨rest, rfl⟩ := h
  exact ⟨rest ++ after, by simp⟩

theorem in_of_mem_openLists (mem : start ∈ openLists read) : start.In read.reverse := by
  fun_induction openLists read with
  | case1 name read ih =>
    rw [List.reverse_cons, List.reverse_cons, List.reverse_cons]
    rcases List.mem_cons.mp mem with rfl | mem
    · exact ⟨[.leftBrace], by simp⟩
    · exact (((ih mem).append _).append _).append _
  | case2 read ih =>
    rw [List.reverse_cons]
    exact (ih (List.mem_of_mem_tail mem)).append _
  | case3 s read => cases mem
  | case4 t read _ _ _ ih =>
    rw [List.reverse_cons]
    exact (ih mem).append _
  | case5 => cases mem

theorem in_of_mem_leftOpen (mem : start ∈ leftOpen read) : start.In read.reverse := by
  fun_induction leftOpen read with
  | case1 s read ih =>
    rw [List.reverse_cons]
    rcases List.mem_append.mp mem with mem | mem
    · exact (ih mem).append _
    · exact (in_of_mem_openLists mem).append _
  | case2 t read _ ih =>
    rw [List.reverse_cons]
    exact (ih mem).append _
  | case3 => cases mem

/-- A list that is left open belongs to a command. -/
theorem in_of_mem_implicitlyClosed (mem : start ∈ implicitlyClosed ts) : start.In ts := by
  rw [← List.reverse_reverse ts]
  exact (List.mem_append.mp mem).elim in_of_mem_leftOpen in_of_mem_openLists

theorem in_of_mem_commandStarts (mem : start ∈ commandStarts read ts) :
    start.In (read.reverse ++ ts) := by
  fun_induction commandStarts read ts with
  | case1 read name ts ih =>
    rcases List.mem_cons.mp mem with rfl | mem
    · exact ⟨ts, rfl⟩
    · simpa using ih mem
  | case2 read t ts _ ih => simpa using ih mem
  | case3 read => cases mem

/-! ## Findings -/

/-- The check warns of every backslash that stands in front of an unknown name, on its
line. -/
theorem unknownCommands_eq (read ts : List Token) :
    unknownCommands (1 + newlines read.reverse) ts =
      ((commandStarts read ts).filter fun start => !isKnownCommand start.name).map fun start =>
        unknownCommandWarning start.name (1 + newlines start.before) := by
  fun_induction commandStarts read ts with
  | case1 read name ts ih =>
    have same : newlines (Token.backslash :: read).reverse = newlines read.reverse := by
      simp [Token.newlineCount]
    rw [same] at ih
    rw [unknownCommands, ih, List.filter_cons]
    cases isKnownCommand name <;> rfl
  | case2 read t ts noName ih =>
    rw [unknownCommands, ← ih, List.reverse_cons, newlines_append, newlines_cons, newlines_nil,
      Nat.add_zero, Nat.add_assoc]
    exact fun name ts' isBackslash same => noName name ts' isBackslash same
  | case3 read => rfl

theorem Report.foldl_add_diagnostics (ds : List Diagnostic) (r : Report) :
    (ds.foldl Report.add r).diagnostics = r.diagnostics ++ ds := by
  have added (r : Report) (d : Diagnostic) : (r.add d).diagnostics = r.diagnostics ++ [d] := by
    rw [Report.add]
    cases d.severity <;> rfl
  induction ds generalizing r with
  | nil => rw [List.foldl_nil, List.append_nil]
  | cons d ds ih => rw [List.foldl_cons, ih, added, List.append_assoc, List.singleton_append]

/-- What is found in a text that can be read, and in one that cannot. -/
theorem checkMarkup_diagnostics (text : String) :
    (checkMarkup text).diagnostics =
      match Parser.document (Parser.mk defaultMaxDepth 0 1 []) (tokenize text) with
      | .error e _ => [parseErrorDiagnostic e]
      | .ok _ p => unknownCommands 1 (tokenize text) ++ p.implicitCloses.map openListNote := by
  rw [checkMarkup]
  cases Parser.document (Parser.mk defaultMaxDepth 0 1 []) (tokenize text) with
  | error e p => rfl
  | ok document p => exact Report.foldl_add_diagnostics _ _

theorem severity_of_mem_unknownCommands {d : Diagnostic} {line : Nat}
    (mem : d ∈ unknownCommands line ts) : d.severity = .warning := by
  fun_induction unknownCommands line ts with
  | case1 line name ts rest known ih => exact ih mem
  | case2 line name ts rest unknown ih =>
    rcases List.mem_cons.mp mem with rfl | mem
    · rfl
    · exact ih mem
  | case3 line t ts _ ih => exact ih mem
  | case4 line => cases mem

/-- The findings of a text that can be read are the warnings about its unknown commands
and the notes about its open lists. -/
theorem checkMarkup_filter {document : Document} {p : Parser}
    (read : Parser.document (Parser.mk defaultMaxDepth 0 1 []) (tokenize text) = .ok document p) :
    (checkMarkup text).diagnostics.filter (·.severity = .warning) =
        unknownCommands 1 (tokenize text) ∧
      (checkMarkup text).diagnostics.filter (·.severity = .info) =
        p.implicitCloses.map openListNote := by
  have warnings : ∀ d ∈ unknownCommands 1 (tokenize text), d.severity = .warning :=
    fun d mem => severity_of_mem_unknownCommands mem
  have notes : ∀ d ∈ p.implicitCloses.map openListNote, d.severity = .info := by
    intro d mem
    obtain ⟨close, -, rfl⟩ := List.mem_map.mp mem
    rfl
  have noInfo : ∀ d ∈ unknownCommands 1 (tokenize text), ¬ decide (d.severity = .info) = true := by
    intro d mem
    rw [warnings d mem]
    decide
  have noWarning : ∀ d ∈ p.implicitCloses.map openListNote,
      ¬ decide (d.severity = .warning) = true := by
    intro d mem
    rw [notes d mem]
    decide
  -- Each severity keeps one part of the findings whole and leaves the other out.
  have found := checkMarkup_diagnostics text
  rw [read] at found
  rw [found, List.filter_append, List.filter_append]
  constructor
  · rw [List.filter_eq_self.mpr (by simpa using warnings), List.filter_eq_nil_iff.mpr noWarning,
      List.append_nil]
  · rw [List.filter_eq_nil_iff.mpr noInfo, List.filter_eq_self.mpr (by simpa using notes),
      List.nil_append]

/-! ## Lines -/

/-- The lines that are reported are lines of the source. A text that cannot be read has its
error on the line of the first backslash that no name follows in its paragraph or that
lies too deep. Otherwise every list that is closed implicitly is noted with the line of
the backslash of its command, and the parser ends on the last line of the text. Every
warning about an unknown command carries the line of its backslash, which the check counts
by itself. -/
theorem reportedLines_eq_sourceLines (text : String) (maxDepth : Nat) :
    (match Parser.document (Parser.mk maxDepth 0 1 []) (tokenize text) with
      | .error e _ => ∃ before after, tokenize text = before ++ .backslash :: after ∧
          Offends maxDepth before after ∧ Readable maxDepth (tokenize text) before.length ∧
          e.line = lineAt text (position before)
      | .ok _ p =>
        (∀ start ∈ implicitlyClosed (tokenize text), start.In (tokenize text)) ∧
          p.implicitCloses = (implicitlyClosed (tokenize text)).map (fun start =>
            ⟨start.name, lineAt text (position start.before)⟩) ∧
          p.line = 1 + (stripCarriageReturns text).toList.count '\n') ∧
      match parseDocument text with
      | .error _ => (checkMarkup text).diagnostics.filter (·.severity = .warning) = []
      | .ok _ =>
        (checkMarkup text).diagnostics.filter (·.severity = .warning) =
          ((commandStarts [] (tokenize text)).filter fun start => !isKnownCommand start.name).map
            fun start =>
              unknownCommandWarning start.name (lineAt text (position start.before)) := by
  constructor
  · have traced := Machine.run_traced_fresh maxDepth (tokenize text)
    have ran := Parser.document_run maxDepth (tokenize text)
    cases read : Parser.document (Parser.mk maxDepth 0 1 []) (tokenize text) with
    | error e p =>
      rw [read] at ran
      rw [ran] at traced
      obtain ⟨before, after, split, offends, readable, line⟩ := traced
      exact ⟨before, after, split, offends, readable, line.trans (lineAt_position split).symm⟩
    | ok document p =>
      rw [read] at ran
      rw [ran] at traced
      obtain ⟨line, closes⟩ := traced
      refine ⟨fun start mem => in_of_mem_implicitlyClosed mem, ?_, ?_⟩
      · refine closes.trans (List.map_congr_left fun start mem => ?_)
        rw [Start.close, (in_of_mem_implicitlyClosed mem).lineAt]
      · obtain ⟨same, canonical, -⟩ := tokenize_spec text
        rw [← same, ← newlines_eq_count canonical]
        exact line
  · rw [parseDocument]
    cases read : Parser.document (Parser.mk defaultMaxDepth 0 1 []) (tokenize text) with
    | error e p =>
      have found := checkMarkup_diagnostics text
      rw [read] at found
      show (checkMarkup text).diagnostics.filter (·.severity = .warning) = []
      rw [found]
      rfl
    | ok document p =>
      refine (checkMarkup_filter read).1.trans ((unknownCommands_eq [] _).trans ?_)
      refine List.map_congr_left fun start mem => ?_
      have begins : start.In (tokenize text) := in_of_mem_commandStarts (List.mem_of_mem_filter mem)
      rw [begins.lineAt]

/-- Two lists are left open on different lines, in front of a blank line, and an unknown
command stands behind it. -/
example :
    let text := "\n\\b\x7bx\r\n\\i\x7by\n\n\\?"
    (implicitlyClosed (tokenize text)).map (fun start =>
        (start.name, lineAt text (position start.before))) = [("i", 3), ("b", 2)] ∧
      (commandStarts [] (tokenize text)).map (fun start =>
        (start.name, lineAt text (position start.before))) = [("b", 2), ("i", 3), ("?", 5)] := by
  decide +kernel

end TexMarkup
