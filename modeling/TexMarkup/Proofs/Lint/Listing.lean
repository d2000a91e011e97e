import TexMarkup.Proofs.Document.MissingName
import TexMarkup.Proofs.Lint.SourceOrder
import TexMarkup.Proofs.Lint.Suggestion

/-!
# Listings of findings

A report counts its findings while they are added, and lists them by line and severity. The
listing is a stable one: findings of the same line and severity stay in the order in which they
were added. A finding without a line is listed as if it stood on line zero, and so in front of
all others, since lines are counted from one.

In what is found in a text there are no newlines: the names that are quoted are words, and
words hold no blanks. So the listing of a text has one line for each finding and one more.

## Main definitions

* `Report.count`: how many findings of a severity a report has counted.
* `Diagnostic.ListedBefore`, `agreeing`, `IsListing`: how findings are listed.
* `OneLine`, `Diagnostic.OneLine`: texts and findings without newlines.

## Main results

* `Report.count_foldl_add`: the counts after any number of additions.
* `Report.ordered_isListing`, `IsListing.unique`: the order of a report.
* `checkMarkup_oneLine`: the findings in a text.
* `format_listing`: the report as it is written out.
-/

namespace TexMarkup

variable {a b c d : Diagnostic} {ds : List Diagnostic} {s s' text : String}
variable {after : List Token}

/-! ## Counting -/

namespace Report

/-- How many findings of a severity the report has counted. -/
def count (r : Report) : Severity → Nat
  | .error => r.errors
  | .warning => r.warnings
  | .info => r.infos

/-- One more finding adds to the number of those of its severity. -/
theorem count_add (r : Report) (d : Diagnostic) (severity : Severity) :
    (r.add d).count severity = r.count severity + if d.severity = severity then 1 else 0 := by
  rw [add]
  cases d.severity <;> cases severity <;> rfl

theorem count_foldl_add (ds : List Diagnostic) (r : Report) (severity : Severity) :
    (ds.foldl add r).count severity =
      r.count severity + ds.countP (fun d => d.severity = severity) := by
  induction ds generalizing r with
  | nil => rfl
  | cons d ds ih =>
    rw [List.foldl_cons, ih, count_add, List.countP_cons, Nat.add_assoc, Nat.add_comm (ite _ _ _)]
    simp only [decide_eq_true_eq]

/-- There are errors in a report just when an error was added. -/
theorem hasErrors_foldl_add (ds : List Diagnostic) :
    (ds.foldl add {}).hasErrors = true ↔ ∃ d ∈ ds, d.severity = .error := by
  have counted : (ds.foldl add {}).errors = 0 + ds.countP fun d => d.severity = .error :=
    count_foldl_add ds {} .error
  rw [hasErrors, decide_eq_true_eq, counted, Nat.zero_add, List.countP_pos_iff]
  simp only [decide_eq_true_eq]

end Report

/-! ## The order of findings -/

/-- Severities are told apart by their ranks. -/
theorem Severity.rank_injective : Function.Injective rank := by
  intro severity severity' same
  cases severity <;> cases severity' <;> first | rfl | cases same

namespace Diagnostic

/-- The line on which a finding is listed. One without a line comes as if it were on line
zero. -/
def place (d : Diagnostic) : Nat :=
  d.line.getD 0

/-- The first finding is on an earlier line, or on the same one and no less serious. -/
def ListedBefore (d d' : Diagnostic) : Prop :=
  d.place < d'.place ∨ d.place = d'.place ∧ d'.severity.rank ≤ d.severity.rank

/-- The order of the report as a relation: by line, and on one line by severity. -/
theorem comesBefore_iff : a.comesBefore b = true ↔ a.ListedBefore b := by
  simp only [comesBefore, ListedBefore, place, Bool.or_eq_true, Bool.and_eq_true,
    decide_eq_true_eq, beq_iff_eq]

/-- The order of a listing is transitive. -/
theorem ListedBefore.trans (h : a.ListedBefore b) (h' : b.ListedBefore c) : a.ListedBefore c := by
  unfold ListedBefore at *
  omega

/-- Any two findings are in order one way or the other, and both ways where they tie. -/
theorem listedBefore_total (a b : Diagnostic) : a.ListedBefore b ∨ b.ListedBefore a := by
  unfold ListedBefore
  omega

theorem ListedBefore.refl (d : Diagnostic) : d.ListedBefore d :=
  .inr ⟨rfl, le_rfl⟩

/-- Findings that may be listed in either order agree in line and severity. -/
theorem ListedBefore.agree (h : a.ListedBefore b) (h' : b.ListedBefore a) :
    a.place = b.place ∧ a.severity = b.severity := by
  unfold ListedBefore at h h'
  exact ⟨by omega, Severity.rank_injective (by omega)⟩

theorem comesBefore_trans (a b c : Diagnostic) (h : a.comesBefore b = true)
    (h' : b.comesBefore c = true) : a.comesBefore c = true :=
  comesBefore_iff.mpr ((comesBefore_iff.mp h).trans (comesBefore_iff.mp h'))

theorem comesBefore_total (a b : Diagnostic) : (a.comesBefore b || b.comesBefore a) = true := by
  rw [Bool.or_eq_true, comesBefore_iff, comesBefore_iff]
  exact listedBefore_total a b

/-- Where lines are counted from one, nothing with a line is listed before something without
one. -/
theorem ListedBefore.line_eq_none (h : a.ListedBefore b) (counted : a.line ≠ some 0)
    (noLine : b.line = none) : a.line = none := by
  have first : a.place = 0 := by
    have place : b.place = 0 := by rw [Diagnostic.place, noLine, Option.getD_none]
    unfold ListedBefore at h
    omega
  cases line : a.line with
  | none => rfl
  | some n =>
    rw [Diagnostic.place, line, Option.getD_some] at first
    exact absurd (first ▸ line) counted

end Diagnostic

/-- The findings of a severity that are listed on a line. -/
def agreeing (place : Nat) (severity : Severity) (ds : List Diagnostic) : List Diagnostic :=
  ds.filter fun d => d.place = place ∧ d.severity = severity

theorem agreeing_cons (place : Nat) (severity : Severity) (d : Diagnostic) (ds : List Diagnostic) :
    agreeing place severity (d :: ds) =
      if d.place = place ∧ d.severity = severity then d :: agreeing place severity ds
      else agreeing place severity ds := by
  simp only [agreeing, List.filter_cons, decide_eq_true_eq]

/-- The second list is a stable listing of the first one: it has the same findings, each on its
line and in the order of severity there, and those that agree in both are where they were. -/
structure IsListing (ds listed : List Diagnostic) : Prop where
  perm : listed.Perm ds
  pairwise : listed.Pairwise Diagnostic.ListedBefore
  stable : ∀ place severity, agreeing place severity listed = agreeing place severity ds

/-- Findings that agree may be listed in any order. -/
theorem agreeing_pairwise (place : Nat) (severity : Severity) (ds : List Diagnostic) :
    (agreeing place severity ds).Pairwise Diagnostic.ListedBefore := by
  refine List.pairwise_of_forall_mem_list fun d mem d' mem' => ?_
  obtain ⟨line, same⟩ := of_decide_eq_true (List.mem_filter.mp mem).2
  obtain ⟨line', same'⟩ := of_decide_eq_true (List.mem_filter.mp mem').2
  exact .inr ⟨line.trans line'.symm, by rw [same, same']⟩

/-- A report lists its findings in a stable order. -/
theorem Report.ordered_isListing (r : Report) : IsListing r.diagnostics r.ordered := by
  have perm : r.ordered.Perm r.diagnostics := List.mergeSort_perm r.diagnostics _
  refine ⟨perm, ?_, fun place severity => ?_⟩
  · exact (List.pairwise_mergeSort Diagnostic.comesBefore_trans Diagnostic.comesBefore_total _).imp
      Diagnostic.comesBefore_iff.mp
  · -- Findings that agree are in order already, so the sorting keeps them as they are.
    have kept : (agreeing place severity r.diagnostics).Sublist r.ordered :=
      List.sublist_mergeSort Diagnostic.comesBefore_trans Diagnostic.comesBefore_total
        ((agreeing_pairwise place severity _).imp Diagnostic.comesBefore_iff.mpr)
        List.filter_sublist
    have same : (agreeing place severity r.diagnostics).Sublist
        (agreeing place severity r.ordered) := by
      have filtered := kept.filter fun d => decide (d.place = place ∧ d.severity = severity)
      simpa only [agreeing, List.filter_filter, Bool.and_self] using filtered
    exact (same.eq_of_length (perm.filter _).length_eq.symm).symm

/-- Lists of the same findings are equal if both go by line and severity, and those that agree
in both are in the same order. -/
theorem eq_of_pairwise_listedBefore {listed listed' : List Diagnostic} (perm : listed.Perm listed')
    (h : listed.Pairwise Diagnostic.ListedBefore) (h' : listed'.Pairwise Diagnostic.ListedBefore)
    (same : ∀ place severity, agreeing place severity listed = agreeing place severity listed') :
    listed = listed' := by
  induction listed generalizing listed' with
  | nil => exact perm.nil_eq
  | cons d rest ih =>
    cases listed' with
    | nil => exact absurd perm.eq_nil (List.cons_ne_nil _ _)
    | cons d' rest' =>
      obtain ⟨first, inOrder⟩ := List.pairwise_cons.mp h
      obtain ⟨first', inOrder'⟩ := List.pairwise_cons.mp h'
      -- Each of the first findings is in the other list too, so they agree, and then they are
      -- the first ones of the same findings.
      have before : d.ListedBefore d' :=
        (List.mem_cons.mp (perm.mem_iff.mpr List.mem_cons_self)).elim
          (fun same => same ▸ .refl d') (first d')
      have before' : d'.ListedBefore d :=
        (List.mem_cons.mp (perm.mem_iff.mp List.mem_cons_self)).elim
          (fun same => same ▸ .refl d) (first' d)
      obtain ⟨place, severity⟩ := before.agree before'
      have equal : d = d' := by
        have both := same d.place d.severity
        rw [agreeing_cons, agreeing_cons, if_pos ⟨rfl, rfl⟩,
          if_pos ⟨place.symm, severity.symm⟩] at both
        exact List.head_eq_of_cons_eq both
      subst equal
      refine congrArg (d :: ·) (ih perm.cons_inv inOrder inOrder' fun place severity => ?_)
      have both := same place severity
      rw [agreeing_cons, agreeing_cons] at both
      split at both
      · exact List.tail_eq_of_cons_eq both
      · exact both

/-- There is only one stable listing of findings. -/
theorem IsListing.unique {listed listed' : List Diagnostic} (h : IsListing ds listed)
    (h' : IsListing ds listed') : listed = listed' :=
  eq_of_pairwise_listedBefore (h.perm.trans h'.perm.symm) h.pairwise h'.pairwise
    fun place severity => (h.stable place severity).trans (h'.stable place severity).symm

/-! ## Texts on one line -/

/-- There is no newline in the text. -/
def OneLine (s : String) : Prop :=
  '\n' ∉ s.toList

instance : DecidablePred OneLine :=
  fun s => inferInstanceAs (Decidable ('\n' ∉ s.toList))

@[simp]
theorem oneLine_append : OneLine (s ++ s') ↔ OneLine s ∧ OneLine s' := by
  rw [OneLine, String.toList_append, List.mem_append, not_or]
  rfl

/-- Texts without newlines stay so when they are joined. -/
theorem oneLine_intercalate {separator : String} {texts : List String} (h : OneLine separator)
    (each : ∀ s ∈ texts, OneLine s) : OneLine (String.intercalate separator texts) := by
  induction texts with
  | nil => exact (by decide : OneLine "")
  | cons s texts ih =>
    obtain ⟨first, rest⟩ := List.forall_mem_cons.mp each
    by_cases last : texts = []
    · rw [last, String.intercalate_singleton]
      exact first
    · rw [String.intercalate_cons_of_ne_nil last, oneLine_append, oneLine_append]
      exact ⟨⟨first, h⟩, ih rest⟩

/-- A number is written on one line. -/
theorem oneLine_toString (n : Nat) : OneLine (toString n) := by
  rw [OneLine, Nat.toString_eq_ofList_toDigits, String.toList_ofList]
  intro mem
  exact absurd (Nat.isDigit_of_mem_toDigits (by decide) (by decide) mem) (by decide)

theorem oneLine_of_wordChars (wordChars : ∀ c ∈ s.toList, isWordChar c = true) : OneLine s :=
  fun mem => absurd (wordChars _ mem) (by decide)

namespace Token

variable {t : Token} {name : String}

theorem WellFormed.oneLine_word (h : (word name).WellFormed) : OneLine name :=
  oneLine_of_wordChars h.2.1

/-- What an error says of a token is on one line. -/
theorem WellFormed.oneLine_describe (h : t.WellFormed) : OneLine t.describe := by
  cases t with
  | word s =>
    simp only [describe, oneLine_append]
    exact ⟨⟨by decide, h.oneLine_word⟩, by decide⟩
  | number s =>
    simp only [describe, oneLine_append]
    exact ⟨⟨by decide, oneLine_of_wordChars fun c mem => (Numeral.wordChars h c mem).1⟩, by decide⟩
  | blankLine s => exact (by decide : OneLine "a blank line")
  | space s => exact (by decide : OneLine "whitespace")
  | _ => decide

end Token

theorem FoundInstead.oneLine {found : String} (h : FoundInstead after found)
    (wellFormed : ∀ t ∈ after, t.WellFormed) : OneLine found := by
  cases h with
  | endOfText => decide
  | endOfParagraph s rest => decide
  | token rest _ _ => exact (wellFormed _ List.mem_cons_self).oneLine_describe

/-- The message of an error is on one line if what it quotes is. -/
theorem ParseError.oneLine_message {e : ParseError}
    (quoted : ∀ line found, e = .missingCommandName line found → OneLine found) :
    OneLine e.message := by
  unfold message
  cases e with
  | missingCommandName line found =>
    simp only [oneLine_append]
    exact ⟨⟨⟨by decide +kernel, oneLine_toString line⟩, by decide +kernel⟩, quoted line found rfl⟩
  | nestingTooDeep line limit =>
    simp only [oneLine_append]
    exact ⟨⟨⟨⟨by decide +kernel, oneLine_toString line⟩, by decide +kernel⟩,
      oneLine_toString limit⟩, by decide +kernel⟩

/-- The error of a backslash quotes no more than the token behind it. -/
theorem oneLine_offence (limit : Nat) (before : List Token)
    (wellFormed : ∀ t ∈ after, t.WellFormed) : OneLine (offence limit before after).message :=
  ParseError.oneLine_message fun _ _ same =>
    (offence_eq_missingCommandName_iff.mp same).2.oneLine wellFormed

/-! ## Findings on one line -/

/-- Neither the message nor the suggestion holds a newline. -/
structure Diagnostic.OneLine (d : Diagnostic) : Prop where
  message : TexMarkup.OneLine d.message
  suggestion : ∀ s ∈ d.suggestion, TexMarkup.OneLine s

/-- A finding is formatted on one line if its own texts are. -/
theorem Diagnostic.OneLine.format (h : d.OneLine) (color : Bool) :
    TexMarkup.OneLine (d.format color) := by
  obtain ⟨severity, message, line, suggestion⟩ := d
  have colored : TexMarkup.OneLine (if color then severity.colored else severity.name) := by
    cases color <;> cases severity <;> decide
  simp only [Diagnostic.format, oneLine_append]
  refine ⟨⟨⟨⟨⟨?_, by decide⟩, colored⟩, by decide⟩, h.message⟩, ?_⟩
  · cases line with
    | some line => exact oneLine_append.mpr ⟨by decide, oneLine_toString line⟩
    | none => decide
  · cases suggestion with
    | some s =>
      simp only [oneLine_append]
      exact ⟨⟨by decide, h.suggestion s rfl⟩, by decide⟩
    | none => decide

theorem Report.oneLine_countPhrase (n : Nat) {noun : String} (h : OneLine noun) :
    ∀ phrase ∈ countPhrase n noun, OneLine phrase := by
  unfold countPhrase
  split
  case h_1 => exact nofun
  case h_2 =>
    intro phrase mem
    rw [List.mem_singleton.mp mem]
    exact oneLine_append.mpr ⟨by decide, h⟩
  case h_3 =>
    intro phrase mem
    rw [List.mem_singleton.mp mem]
    simp only [oneLine_append]
    exact ⟨⟨⟨oneLine_toString _, by decide⟩, h⟩, by decide⟩

theorem Report.oneLine_status (r : Report) : OneLine r.status := by
  have phrases : ∀ phrase ∈ countPhrase r.errors "error" ++ countPhrase r.warnings "warning" ++
      countPhrase r.infos "note", OneLine phrase := by
    simp only [List.mem_append]
    rintro phrase ((mem | mem) | mem)
    · exact oneLine_countPhrase r.errors (by decide) phrase mem
    · exact oneLine_countPhrase r.warnings (by decide) phrase mem
    · exact oneLine_countPhrase r.infos (by decide) phrase mem
  have summary : OneLine r.summary := by
    unfold Report.summary
    split
    case h_1 => decide
    case h_2 => exact oneLine_intercalate (by decide) phrases
  have result : OneLine (if r.hasErrors then "failed" else "ok") := by
    cases r.hasErrors <;> decide
  exact oneLine_append.mpr ⟨oneLine_append.mpr ⟨result, by decide⟩, summary⟩

/-- A report whose findings are on one line each is written out on that many lines and one
more. -/
theorem Report.splitOn_format {r : Report} (oneLine : ∀ d ∈ r.diagnostics, d.OneLine)
    (color : Bool) :
    (r.format color).toList.splitOn '\n' =
      (r.ordered.map (Diagnostic.format color) ++ [r.status]).map String.toList := by
  rw [format, String.toList_intercalate]
  refine List.splitOn_intercalate '\n' (fun line mem => ?_) (by simp)
  obtain ⟨s, written, rfl⟩ := List.mem_map.mp mem
  rcases List.mem_append.mp written with finding | status
  · obtain ⟨d, listed, rfl⟩ := List.mem_map.mp finding
    exact (oneLine d (r.ordered_isListing.perm.mem_iff.mp listed)).format color
  · rw [List.mem_singleton.mp status]
    exact r.oneLine_status

/-! ## Findings in a text -/

/-- The name of a command has no newline. -/
theorem Start.In.oneLine_name {start : Start} (h : start.In (tokenize text)) :
    OneLine start.name := by
  obtain ⟨after, split⟩ := h
  exact ((tokenize_spec text).2.1 (.word start.name) (by simp [split])).oneLine_word

/-- What is suggested is the name of a command of the table. -/
theorem closestCommand_mem {name close : String} (chosen : closestCommand name = some close) :
    close ∈ commandTable.map Prod.fst := by
  have nonempty : commandTable.map Prod.fst ≠ [] := by decide +kernel
  obtain ⟨best, nearest⟩ := exists_nearest nonempty (normalizeName name)
  rw [closestCommand, closestAmong_eq nearest] at chosen
  split at chosen
  · exact Option.some.inj chosen ▸ nearest.mem
  · cases chosen

theorem oneLine_closestCommand {name close : String} (chosen : closestCommand name = some close) :
    OneLine close := by
  have all : ∀ name ∈ commandTable.map Prod.fst, OneLine name := by decide +kernel
  exact all close (closestCommand_mem chosen)

/-- The warning of an unknown command is on one line, with or without a suggestion. -/
theorem unknownCommandWarning_oneLine {name : String} (h : OneLine name) (line : Nat) :
    (unknownCommandWarning name line).OneLine where
  message := oneLine_append.mpr ⟨by decide +kernel, h⟩
  suggestion s mem := by
    rw [unknownCommandWarning, Option.mem_map] at mem
    obtain ⟨close, chosen, rfl⟩ := mem
    simp only [oneLine_append]
    exact ⟨⟨by decide +kernel, oneLine_closestCommand chosen⟩, by decide⟩

theorem openListNote_oneLine {close : ImplicitClose} (h : OneLine close.command) :
    (openListNote close).OneLine where
  message := by
    simp only [openListNote, oneLine_append]
    exact ⟨⟨by decide +kernel, h⟩, by decide +kernel⟩
  suggestion s mem := by
    obtain rfl := Option.some.inj mem
    decide +kernel

/-- What is found in a text is on one line: the names that are quoted hold no newline, as they
are words. -/
theorem checkMarkup_oneLine (text : String) : ∀ d ∈ (checkMarkup text).diagnostics, d.OneLine := by
  have found := checkMarkup_diagnostics text
  have wellFormed := (tokenize_spec text).2.1
  cases read : Parser.document (Parser.mk defaultMaxDepth 0 1 []) (tokenize text) with
  | error e p =>
    have failed : parseDocument text = .error e := by
      rw [parseDocument, read]
      rfl
    obtain ⟨before, after, split, -, -, rfl⟩ := parseDocument_eq_error_iff.mp failed
    rw [read] at found
    rw [found]
    intro d mem
    rw [List.mem_singleton.mp mem]
    have behind : ∀ t ∈ after, t.WellFormed := fun t mem =>
      wellFormed t (split ▸ List.mem_append_right _ (List.mem_cons_of_mem _ mem))
    exact ⟨oneLine_offence _ before behind, fun s none => by cases none⟩
  | ok document p =>
    rw [read] at found
    rw [found]
    intro d mem
    rcases List.mem_append.mp mem with warning | note
    · rw [show unknownCommands 1 (tokenize text) = _ from unknownCommands_eq [] _] at warning
      obtain ⟨start, unknown, rfl⟩ := List.mem_map.mp warning
      have starts : start.In (tokenize text) :=
        in_of_mem_commandStarts (List.mem_filter.mp unknown).1
      exact unknownCommandWarning_oneLine starts.oneLine_name _
    · rw [implicitCloses_eq read, List.map_map] at note
      obtain ⟨start, leftOpen, rfl⟩ := List.mem_map.mp note
      exact openListNote_oneLine (in_of_mem_implicitlyClosed leftOpen).oneLine_name

/-- After any findings have been added, a report has all of them, counted by severity. It lists
each of them once, by line, on a line from the most serious one down, and else in the order in
which they were added. Those without a line are listed in front of all others where lines are
counted from one, and in any case as if they stood on line zero. The status behind them says
whether there is an error. Of what is found in a text, each finding is on a line of its own, and
so is the status. -/
theorem format_listing :
    (∀ (ds : List Diagnostic) (color : Bool),
      let r := ds.foldl Report.add {}
      r.diagnostics = ds ∧
        (r.errors = ds.countP (·.severity = .error) ∧
          r.warnings = ds.countP (·.severity = .warning) ∧
          r.infos = ds.countP (·.severity = .info)) ∧
        (∀ listed, IsListing ds listed ↔ listed = r.ordered) ∧
        ((∀ d ∈ ds, d.line ≠ some 0) →
          r.ordered.Pairwise fun d d' => d'.line = none → d.line = none) ∧
        r.format color = String.intercalate "\n" (r.ordered.map (Diagnostic.format color) ++
          [(if ∃ d ∈ ds, d.severity = .error then "failed" else "ok") ++ ": " ++ r.summary])) ∧
      ∀ (text : String) (color : Bool),
        let r := checkMarkup text
        ((r.format color).toList.splitOn '\n').length = r.diagnostics.length + 1 ∧
          (r.format color).toList.splitOn '\n' =
            (r.ordered.map (Diagnostic.format color) ++ [r.status]).map String.toList := by
  constructor
  · intro ds color r
    have diagnostics : r.diagnostics = ds := Report.foldl_add_diagnostics ds {}
    have listing : IsListing ds r.ordered := diagnostics ▸ r.ordered_isListing
    have counted (severity : Severity) : r.count severity = ds.countP (·.severity = severity) :=
      (Report.count_foldl_add ds {} severity).trans (by cases severity <;> exact Nat.zero_add _)
    refine ⟨diagnostics, ⟨counted .error, counted .warning, counted .info⟩,
      fun listed => ⟨fun h => h.unique listing, fun same => same ▸ listing⟩, ?_, ?_⟩
    · intro counted
      refine listing.pairwise.imp_of_mem fun mem _ before => ?_
      exact before.line_eq_none (counted _ (listing.perm.mem_iff.mp mem))
    · rw [Report.format, Report.status]
      simp only [r, Report.hasErrors_foldl_add]
  · intro text color r
    have split := Report.splitOn_format (checkMarkup_oneLine text) color
    refine ⟨?_, split⟩
    rw [split, List.length_map, List.length_append, List.length_map, List.length_singleton,
      r.ordered_isListing.perm.length_eq]

/-- Of two findings on a line the error is listed first, although the note was added first, and
the one without a line stands in front of both. -/
theorem format_listing_mixed :
    let late : Diagnostic := { severity := .warning, message := "late", line := some 7 }
    let note : Diagnostic :=
      { severity := .info, message := "note", line := some 2,
        suggestion := some "add a closing '\x7d'" }
    let broken : Diagnostic := { severity := .error, message := "broken", line := some 2 }
    let anywhere : Diagnostic := { severity := .warning, message := "anywhere" }
    let r := [late, note, broken, anywhere].foldl Report.add {}
    IsListing [late, note, broken, anywhere] [anywhere, broken, note, late] ∧
      r.ordered.Pairwise (fun d d' => d'.line = none → d.line = none) ∧
      r.format false = "input: warning: anywhere\nline 2: error: broken\n" ++
        "line 2: info: note (add a closing '\x7d')\nline 7: warning: late\n" ++
        "failed: 1 error, 2 warnings, 1 note" := by
  intro late note broken anywhere r
  have ordered : r.ordered = [anywhere, broken, note, late] := by
    simp [Report.ordered, Report.add, List.mergeSort, Diagnostic.comesBefore, Severity.rank, r,
      late, note, broken, anywhere]
  obtain ⟨-, -, listing, noLineFirst, -⟩ := format_listing.1 [late, note, broken, anywhere] false
  refine ⟨(listing _).mpr ordered.symm, noLineFirst (by decide), ?_⟩
  rw [Report.format, ordered]
  decide +kernel

/-- A finding that is said to be on line zero is not told from one without a line. So an error
there is listed in front of a warning without a line. -/
theorem format_listing_lineZero :
    let broken : Diagnostic := { severity := .error, message := "broken", line := some 0 }
    let anywhere : Diagnostic := { severity := .warning, message := "anywhere" }
    let r := [broken, anywhere].foldl Report.add {}
    ¬ r.ordered.Pairwise (fun d d' => d'.line = none → d.line = none) ∧
      r.format false =
        "line 0: error: broken\ninput: warning: anywhere\nfailed: 1 error, 1 warning" := by
  intro broken anywhere r
  have ordered : r.ordered = [broken, anywhere] := List.mergeSort_of_pairwise (by decide)
  rw [Report.format, ordered]
  exact ⟨by decide, by decide +kernel⟩

end TexMarkup
