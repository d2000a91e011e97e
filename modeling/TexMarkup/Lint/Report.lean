/-!
# Reports

A report collects what was found in a text, with the number of findings of each
severity. It can be written out for a terminal, one finding on a line.

## Main definitions

* `Severity`, `Diagnostic`, `Report`.
* `Report.add`, `Report.summary`, `Report.format`.
-/

namespace TexMarkup

/-- How serious a finding is. -/
inductive Severity where
  /-- Something worth knowing. -/
  | info
  /-- The text renders, but probably not as it should. -/
  | warning
  /-- The text cannot be rendered. -/
  | error
  deriving DecidableEq, Repr, Inhabited

namespace Severity

/-- The severity in one word. -/
def name : Severity → String
  | info => "info"
  | warning => "warning"
  | error => "error"

/-- A greater rank is more serious. -/
def rank : Severity → Nat
  | info => 0
  | warning => 1
  | error => 2

/-- The severity in bold and in a color of its own, for a terminal. -/
def colored (s : Severity) : String :=
  let color := match s with
    | error => "\x1b[1;31m"
    | warning => "\x1b[1;33m"
    | info => "\x1b[1;36m"
  color ++ s.name ++ "\x1b[0m"

end Severity

/-- A finding. -/
structure Diagnostic where
  /-- How serious it is. -/
  severity : Severity
  /-- What was found. -/
  message : String
  /-- The line on which it was found, counted from one. -/
  line : Option Nat := none
  /-- What could be done about it. -/
  suggestion : Option String := none
  deriving DecidableEq, Repr, Inhabited

namespace Diagnostic

/-- The finding on several lines: the message, the place and the suggestion. -/
def display (d : Diagnostic) : String :=
  d.severity.name ++ ": " ++ d.message ++
    (match d.line with
      | some line => "\n  --> line " ++ toString line
      | none => "") ++
    (match d.suggestion with
      | some suggestion => "\n  = help: " ++ suggestion
      | none => "")

/-- The finding on one line. -/
def format (color : Bool) (d : Diagnostic) : String :=
  let place := match d.line with
    | some line => "line " ++ toString line
    | none => "input"
  let severity := if color then d.severity.colored else d.severity.name
  place ++ ": " ++ severity ++ ": " ++ d.message ++
    (match d.suggestion with
      | some suggestion => " (" ++ suggestion ++ ")"
      | none => "")

/-- Findings are listed by line, those without a line first, and on a line by
severity, the most serious first. -/
def comesBefore (a b : Diagnostic) : Bool :=
  let lineA := a.line.getD 0
  let lineB := b.line.getD 0
  lineA < lineB || (lineA == lineB && b.severity.rank ≤ a.severity.rank)

end Diagnostic

/-! ## All findings together -/

/-- All findings in a text. -/
structure Report where
  /-- The findings in the order in which they were added. -/
  diagnostics : List Diagnostic := []
  /-- How many of them are errors. -/
  errors : Nat := 0
  /-- How many of them are warnings. -/
  warnings : Nat := 0
  /-- How many of them are notes. -/
  infos : Nat := 0
  deriving DecidableEq, Repr, Inhabited

namespace Report

/-- The report with one more finding. -/
def add (r : Report) (d : Diagnostic) : Report :=
  let r := { r with diagnostics := r.diagnostics ++ [d] }
  match d.severity with
  | .error => { r with errors := r.errors + 1 }
  | .warning => { r with warnings := r.warnings + 1 }
  | .info => { r with infos := r.infos + 1 }

/-- Whether the text has errors. -/
def hasErrors (r : Report) : Bool :=
  0 < r.errors

/-- Whether nothing was found. -/
def isEmpty (r : Report) : Bool :=
  r.diagnostics.isEmpty

/-- A number of things in words; nothing is said about none. -/
def countPhrase (count : Nat) (noun : String) : List String :=
  match count with
  | 0 => []
  | 1 => ["1 " ++ noun]
  | n => [toString n ++ " " ++ noun ++ "s"]

/-- The numbers of findings in words. -/
def summary (r : Report) : String :=
  match countPhrase r.errors "error" ++ countPhrase r.warnings "warning" ++
      countPhrase r.infos "note" with
  | [] => "no issues found"
  | phrases => String.intercalate ", " phrases

/-- The findings as they are listed; those that are listed together keep their
order. -/
def ordered (r : Report) : List Diagnostic :=
  r.diagnostics.mergeSort Diagnostic.comesBefore

/-- The last line of a report. -/
def status (r : Report) : String :=
  (if r.hasErrors then "failed" else "ok") ++ ": " ++ r.summary

/-- The report with one finding on a line and the status on the last. -/
def format (r : Report) (color : Bool) : String :=
  String.intercalate "\n" (r.ordered.map (Diagnostic.format color) ++ [r.status])

end Report

end TexMarkup
