import TexMarkup.Proofs.Lint.Line

/-!
# The order of findings

The warnings of a check come in the order of the source. The notes about open lists come in
the order in which the lists are closed: paragraph by paragraph, but in a paragraph from the
innermost list out, which is from the last line back. So they are in the order of the source
just when no paragraph leaves lists of different lines open.

## Main definitions

* `LinesAscend`: findings in the order of the source.
* `Start.paragraph`: the paragraph in which a command begins.
* `Start.ClosedBefore`: the order in which lists are closed.

## Main results

* `unknownCommands_linesAscend`: the warnings of a check.
* `implicitlyClosed_pairwise`: the lists that are left open.
* `notes_linesAscend_iff`: when the notes are in the order of the source.
-/

namespace TexMarkup

/-- The lines of the findings never decrease. -/
def LinesAscend (ds : List Diagnostic) : Prop :=
  ds.Pairwise fun d d' => ∀ line ∈ d.line, ∀ line' ∈ d'.line, line ≤ line'

/-- The paragraph in which a command begins: the number of blank lines in front of it. -/
def Start.paragraph (start : Start) : Nat :=
  start.before.countP Token.isBlankLine

/-- The list of the first command is closed before that of the second one: it stands in a
paragraph further up, or in the same paragraph and begins on no earlier line. -/
def Start.ClosedBefore (start later : Start) : Prop :=
  start.paragraph < later.paragraph ∨
    start.paragraph = later.paragraph ∧ newlines later.before ≤ newlines start.before

variable {text : String} {ts read : List Token} {start later : Start} {line : Nat}

/-! ## Warnings -/

theorem le_line_of_mem_unknownCommands {d : Diagnostic} (mem : d ∈ unknownCommands line ts) :
    ∀ l ∈ d.line, line ≤ l := by
  fun_induction unknownCommands line ts with
  | case1 line name ts rest known ih => exact ih mem
  | case2 line name ts rest unknown ih =>
    rcases List.mem_cons.mp mem with rfl | mem
    · rintro l ⟨⟩
      exact le_rfl
    · exact ih mem
  | case3 line t ts _ ih => exact fun l at_ => Nat.le_of_add_right_le (ih mem l at_)
  | case4 line => cases mem

theorem unknownCommands_linesAscend (line : Nat) (ts : List Token) :
    LinesAscend (unknownCommands line ts) := by
  fun_induction unknownCommands line ts with
  | case1 line name ts rest known ih => exact ih
  | case2 line name ts rest unknown ih =>
    refine List.pairwise_cons.mpr ⟨?_, ih⟩
    rintro d mem l ⟨⟩
    exact le_line_of_mem_unknownCommands mem
  | case3 line t ts _ ih => exact ih
  | case4 line => exact List.Pairwise.nil

/-! ## Lists that are left open -/

theorem Start.In.newlines_le (h : start.In ts) : newlines start.before ≤ newlines ts := by
  obtain ⟨after, rfl⟩ := h
  rw [newlines_append]
  exact Nat.le_add_right _ _

/-- A command in a later paragraph begins on no earlier line. -/
theorem Start.In.newlines_le_of_paragraph_lt (h : start.In ts) (h' : later.In ts)
    (further : start.paragraph < later.paragraph) :
    newlines start.before ≤ newlines later.before := by
  obtain ⟨after, rfl⟩ := h
  obtain ⟨after', same⟩ := h'
  rcases List.prefix_or_prefix_of_prefix (List.prefix_append start.before _)
    (same ▸ List.prefix_append later.before _) with ⟨between, same⟩ | ⟨between, same⟩
  · rw [← same, newlines_append]
    exact Nat.le_add_right _ _
  · rw [Start.paragraph, Start.paragraph, ← same, List.countP_append] at further
    exact absurd further (Nat.not_lt_of_le (Nat.le_add_right _ _))

theorem paragraph_of_mem_openLists (mem : start ∈ openLists read) :
    start.paragraph = read.countP Token.isBlankLine := by
  fun_induction openLists read with
  | case1 name read ih =>
    rcases List.mem_cons.mp mem with rfl | mem
    · exact List.countP_reverse
    · exact ih mem
  | case2 read ih => exact ih (List.mem_of_mem_tail mem)
  | case3 s read => cases mem
  | case4 t read _ _ noBlankLine ih =>
    have no : t.isBlankLine = false := by
      cases t with
      | blankLine s => exact absurd rfl (noBlankLine s)
      | _ => rfl
    rw [List.countP_cons_of_neg (by simp [no])]
    exact ih mem
  | case5 => cases mem

theorem paragraph_lt_of_mem_leftOpen (mem : start ∈ leftOpen read) :
    start.paragraph < read.countP Token.isBlankLine := by
  fun_induction leftOpen read with
  | case1 s read ih =>
    rw [List.countP_cons_of_pos rfl]
    rcases List.mem_append.mp mem with mem | mem
    · exact Nat.lt_succ_of_lt (ih mem)
    · exact Nat.lt_succ_of_le (paragraph_of_mem_openLists mem).le
  | case2 t read _ ih =>
    exact (ih mem).trans_le ((List.sublist_cons_self t read).countP_le)
  | case3 => cases mem

theorem openLists_pairwise (read : List Token) : (openLists read).Pairwise Start.ClosedBefore := by
  -- All of them begin in the last paragraph, the innermost one behind all others.
  have descending : (openLists read).Pairwise fun start later =>
      newlines later.before ≤ newlines start.before := by
    fun_induction openLists read with
    | case1 name read ih =>
      exact List.pairwise_cons.mpr ⟨fun later mem => (in_of_mem_openLists mem).newlines_le, ih⟩
    | case2 read ih => exact ih.tail
    | case3 s read => exact .nil
    | case4 t read _ _ _ ih => exact ih
    | case5 => exact .nil
  refine descending.imp_of_mem fun mem mem' le => .inr ⟨?_, le⟩
  rw [paragraph_of_mem_openLists mem, paragraph_of_mem_openLists mem']

theorem leftOpen_append_pairwise (h : (leftOpen read).Pairwise Start.ClosedBefore) :
    (leftOpen read ++ openLists read).Pairwise Start.ClosedBefore := by
  refine List.pairwise_append.mpr ⟨h, openLists_pairwise read, fun start mem later mem' => .inl ?_⟩
  rw [paragraph_of_mem_openLists mem']
  exact paragraph_lt_of_mem_leftOpen mem

theorem leftOpen_pairwise (read : List Token) : (leftOpen read).Pairwise Start.ClosedBefore := by
  fun_induction leftOpen read with
  | case1 s read ih => exact leftOpen_append_pairwise ih
  | case2 t read _ ih => exact ih
  | case3 => exact .nil

/-- The lists that are left open, in the order in which they are closed. -/
theorem implicitlyClosed_pairwise (ts : List Token) :
    (implicitlyClosed ts).Pairwise Start.ClosedBefore :=
  leftOpen_append_pairwise (leftOpen_pairwise ts.reverse)

/-- The notes are in the order of the source just when the lists that a paragraph leaves open
begin on one line. -/
theorem notes_linesAscend_iff (ts : List Token) :
    LinesAscend ((implicitlyClosed ts).map fun start => openListNote start.close) ↔
      ∀ start ∈ implicitlyClosed ts, ∀ later ∈ implicitlyClosed ts,
        start.paragraph = later.paragraph → newlines start.before = newlines later.before := by
  have ascend : LinesAscend ((implicitlyClosed ts).map fun start => openListNote start.close) ↔
      (implicitlyClosed ts).Pairwise fun start later =>
        newlines start.before ≤ newlines later.before := by
    rw [LinesAscend, List.pairwise_map]
    simp [openListNote, Start.close]
  have closed := implicitlyClosed_pairwise ts
  rw [ascend]
  constructor
  · intro ascending
    have sameLine := (ascending.and closed).imp fun {start later} both
        (same : start.paragraph = later.paragraph) =>
      both.1.antisymm (both.2.resolve_left (by rw [same]; exact lt_irrefl _)).2
    have symmetric : Std.Symm fun start later : Start =>
        start.paragraph = later.paragraph → newlines start.before = newlines later.before :=
      ⟨fun start later h same => (h same.symm).symm⟩
    intro start mem later mem'
    exact sameLine.forall_of_forall (fun _ _ _ => rfl) mem mem'
  · intro sameLine
    refine closed.imp_of_mem fun {start later} mem mem' before => ?_
    rcases before with further | ⟨same, -⟩
    · exact (in_of_mem_implicitlyClosed mem).newlines_le_of_paragraph_lt
        (in_of_mem_implicitlyClosed mem') further
    · exact (sameLine start mem later mem' same).le

/-! ## Findings in a text -/

theorem implicitCloses_eq {maxDepth : Nat} {document : Document} {p : Parser}
    (read : Parser.document (Parser.mk maxDepth 0 1 []) ts = .ok document p) :
    p.implicitCloses = (implicitlyClosed ts).map Start.close := by
  have traced := Machine.run_traced_fresh maxDepth ts
  have ran := Parser.document_run maxDepth ts
  rw [read] at ran
  rw [ran] at traced
  exact traced.2

/-- An error is the only finding in a text that cannot be read. In one that can be read there
are no errors, and the lines of the warnings never decrease. The notes come paragraph by
paragraph, and in a paragraph their lines never increase; so the lines of the notes never
decrease just when all lists that a paragraph leaves open begin on the same line. -/
theorem checkMarkup_lines (text : String) :
    match parseDocument text with
    | .error e => (checkMarkup text).diagnostics = [parseErrorDiagnostic e]
    | .ok _ =>
      (checkMarkup text).diagnostics.filter (·.severity = .error) = [] ∧
        LinesAscend ((checkMarkup text).diagnostics.filter (·.severity = .warning)) ∧
        (checkMarkup text).diagnostics.filter (·.severity = .info) =
          (implicitlyClosed (tokenize text)).map (fun start => openListNote start.close) ∧
        (implicitlyClosed (tokenize text)).Pairwise Start.ClosedBefore ∧
        (LinesAscend ((checkMarkup text).diagnostics.filter (·.severity = .info)) ↔
          ∀ start ∈ implicitlyClosed (tokenize text), ∀ later ∈ implicitlyClosed (tokenize text),
            start.paragraph = later.paragraph →
              lineAt text (position start.before) = lineAt text (position later.before)) := by
  have found := checkMarkup_diagnostics text
  rw [parseDocument]
  cases read : Parser.document (Parser.mk defaultMaxDepth 0 1 []) (tokenize text) with
  | error e p =>
    rw [read] at found
    exact found
  | ok document p =>
    obtain ⟨warnings, notes⟩ := checkMarkup_filter read
    rw [implicitCloses_eq read, List.map_map] at notes
    refine ⟨?_, ?_, notes, implicitlyClosed_pairwise _, ?_⟩
    · rw [read] at found
      refine List.filter_eq_nil_iff.mpr fun d mem => ?_
      rw [found] at mem
      rcases List.mem_append.mp mem with mem | mem
      · rw [severity_of_mem_unknownCommands mem]
        decide
      · obtain ⟨close, -, rfl⟩ := List.mem_map.mp mem
        exact of_decide_eq_false rfl
    · rw [warnings]
      exact unknownCommands_linesAscend 1 _
    · rw [notes]
      refine (notes_linesAscend_iff _).trans (forall₂_congr fun start mem => ?_)
      refine forall₂_congr fun later mem' => ?_
      rw [(in_of_mem_implicitlyClosed mem).lineAt, (in_of_mem_implicitlyClosed mem').lineAt,
        Nat.add_left_cancel_iff]

/-- Two lists of one paragraph that begin on different lines are noted from the last line
back. -/
theorem checkMarkup_lines_descend :
    (checkMarkup "\\b\x7b\n\\i\x7bx").diagnostics.map (fun d => (d.severity, d.line)) =
        [(.info, some 2), (.info, some 1)] ∧
      ¬ LinesAscend
        ((checkMarkup "\\b\x7b\n\\i\x7bx").diagnostics.filter (·.severity = .info)) := by
  have notes : (checkMarkup "\\b\x7b\n\\i\x7bx").diagnostics.filter (·.severity = .info) =
      [openListNote ⟨"i", 2⟩, openListNote ⟨"b", 1⟩] := by decide +kernel
  refine ⟨by decide +kernel, fun ascend => ?_⟩
  rw [notes, LinesAscend, List.pairwise_cons] at ascend
  exact absurd (ascend.1 _ List.mem_cons_self 2 rfl 1 rfl) (by decide)

end TexMarkup
