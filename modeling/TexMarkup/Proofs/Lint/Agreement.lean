import Mathlib.Data.List.Forall2
import TexMarkup.Proofs.Evaluation.Account
import TexMarkup.Proofs.Lint.Line

/-!
# What is warned of is what fails

The check of a text looks at its tokens, a document is a tree, and rendering goes through
a part of the tree. All three meet the same unknown commands: the check warns of each that
a walk through the document meets, in the same order, and rendering fails on none that the
check has not warned of.

## Main definitions

* `Document.unknownNames`: the unknown commands that a walk meets.
* `Warning.unknownCommand?`: the name in a warning about an unknown command.

## Main results

* `unknown_le_unknownNames`: the unknown commands on which rendering fails.
* `checkMarkup_agrees`: the check, the document and what is rendered.
-/

namespace TexMarkup

/-- The names of the unknown commands that a walk through a document meets. -/
def Document.unknownNames (document : Document) : List String :=
  document.names.filter fun name => !isKnownCommand name

/-- The name in a warning that a command is unknown. -/
def Warning.unknownCommand? (w : Warning) : Option String :=
  ("unknown command ".toList.isPrefixOf? w.message.toList).map String.ofList

/-! ## Failures -/

namespace Warning

theorem unknownCommand?_unknownCommand (command : Option String) (name : String) :
    unknownCommand? ⟨command, (CommandError.unknownCommand name).message⟩ = some name := by
  rw [unknownCommand?, CommandError.toList_unknownCommand,
    List.isPrefixOf?_eq_some_iff_append_eq.mpr rfl, Option.map_some, String.ofList_toList]

theorem unknownCommand?_eq_none {w : Warning}
    (begins : w.message.toList.take 9 ≠ "unknown c".toList) :
    w.unknownCommand? = none := by
  rw [unknownCommand?, Option.map_eq_none_iff, Option.eq_none_iff_forall_ne_some]
  intro rest found
  apply begins
  rw [← List.isPrefixOf?_eq_some_iff_append_eq.mp found]
  simp

theorem unknownCommand?_tooDeep (command : Option String) (limit : Nat) :
    unknownCommand? ⟨command, (CommandError.tooDeep limit).message⟩ = none := by
  apply unknownCommand?_eq_none
  rw [CommandError.toList_tooDeep]
  simp

end Warning

/-- A warning about an unknown command is charged with its name. -/
def unknownAccount : Account String where
  warning w := ↑w.unknownCommand?.toList
  lookup _ := 0
  blame name := if isKnownCommand name then 0 else {name}

theorem unknownAccount_own (node : Node) :
    unknownAccount.own node =
      ↑(node.commandName?.filter fun name => !isKnownCommand name).toList := by
  cases node with
  | command name children =>
    rw [Account.own_command (fun _ => rfl), Node.commandName?, Option.filter_some]
    show (if isKnownCommand name then 0 else {name} : Multiset String) = _
    cases isKnownCommand name <;> rfl
  | text content => rfl
  | space => rfl

section

variable [AddressReader] [SpecialFunctions]

theorem unknownAccount_covers (options : Options) : unknownAccount.Covers ⟨.standard, options⟩ := by
  intro name children depth each
  refine builtin_costs (fun e given => ?_) each
  show (↑(Warning.unknownCommand? ⟨some name, e.message⟩).toList : Multiset String) ≤
    if isKnownCommand name then 0 else {name}
  unfold CommandError.GivenTo at given
  by_cases known : isKnownCommand name = true
  · rw [if_pos known] at given ⊢
    rw [Warning.unknownCommand?_eq_none (CommandError.take_message_ne known given)]
    exact le_rfl
  · rw [if_neg known] at given ⊢
    rw [given, Warning.unknownCommand?_unknownCommand]
    exact le_rfl

/-- What rendering finds unknown is unknown and stands in the document as often. -/
theorem unknown_le_unknownNames (options : Options) (document : Document) :
    (↑((renderDocument ⟨.standard, options⟩ document).warnings.filterMap Warning.unknownCommand?) :
      Multiset String) ≤ ↑document.unknownNames := by
  have unpaid : ∀ name limit, unknownAccount.warning
      ⟨some name, (CommandError.tooDeep limit).message⟩ ≤ unknownAccount.blame name := by
    intro name limit
    show (↑(Warning.unknownCommand? ⟨some name, _⟩).toList : Multiset String) ≤ _
    rw [Warning.unknownCommand?_tooDeep]
    exact Multiset.zero_le _
  have charge : _ ≤ (document.walk.map unknownAccount.own).sum :=
    renderDocument_costs (unknownAccount_covers options) (.inr unpaid)
  have named := sum_map_toList
    (fun node : Node => node.commandName?.filter fun name => !isKnownCommand name) document.walk
  calc (↑((renderDocument ⟨.standard, options⟩ document).warnings.filterMap
        Warning.unknownCommand?) : Multiset String)
    _ = ((renderDocument ⟨.standard, options⟩ document).warnings.map unknownAccount.warning).sum :=
      (sum_map_toList _ _).symm
    _ ≤ (document.walk.map unknownAccount.own).sum := (Multiset.le_add_right _ _).trans charge
    _ = ↑document.unknownNames := by
      rw [funext unknownAccount_own, named, Document.unknownNames, Document.names,
        List.filter_filterMap]

end

theorem parseDocument_of_document {text : String} {document : Document} {p : Parser}
    (read : Parser.document (Parser.mk defaultMaxDepth 0 1 []) (tokenize text) = .ok document p) :
    parseDocument text = .ok document := by
  rw [parseDocument, read]
  rfl

/-- The warnings of a check name the unknown commands of the document, one by one. -/
theorem forall₂_unknownNames {text : String} {document : Document} {p : Parser}
    (read : Parser.document (Parser.mk defaultMaxDepth 0 1 []) (tokenize text) = .ok document p) :
    List.Forall₂ (fun d name => ∃ line, d = unknownCommandWarning name line)
      ((checkMarkup text).diagnostics.filter (·.severity = .warning)) document.unknownNames := by
  rw [(checkMarkup_filter read).1, show unknownCommands 1 (tokenize text) = _ from
    unknownCommands_eq [] _, Document.unknownNames, Parser.document_names read, List.filter_map]
  rw [List.forall₂_map_left_iff, List.forall₂_map_right_iff]
  exact List.forall₂_same.mpr fun start _ => ⟨_, rfl⟩

/-- If a text can be read, then the warnings of its check name the unknown commands that a
walk through its document meets, one by one and in the same order, the notes are those about
the lists that the parser has closed, and the unknown commands on which rendering fails are
among them, each as often at most. A text without errors and warnings is rendered without
such a failure. -/
theorem checkMarkup_agrees [AddressReader] [SpecialFunctions] (text : String) :
    (∀ document p,
      Parser.document (Parser.mk defaultMaxDepth 0 1 []) (tokenize text) = .ok document p →
        parseDocument text = .ok document ∧
        List.Forall₂ (fun d name => ∃ line, d = unknownCommandWarning name line)
          ((checkMarkup text).diagnostics.filter (·.severity = .warning)) document.unknownNames ∧
        (checkMarkup text).diagnostics.filter (·.severity = .info) =
          p.implicitCloses.map openListNote ∧
        (↑((renderDocument .default document).warnings.filterMap Warning.unknownCommand?) :
          Multiset String) ≤ ↑document.unknownNames) ∧
      ((∀ d ∈ (checkMarkup text).diagnostics, d.severity ≠ .error ∧ d.severity ≠ .warning) →
        ∃ output, tryRender .default text = .ok output ∧
          ∀ w ∈ output.warnings, w.unknownCommand? = none) := by
  constructor
  · intro document p read
    exact ⟨parseDocument_of_document read, forall₂_unknownNames read, (checkMarkup_filter read).2,
      unknown_le_unknownNames {} document⟩
  · intro clean
    have found := checkMarkup_diagnostics text
    cases read : Parser.document (Parser.mk defaultMaxDepth 0 1 []) (tokenize text) with
    | error e p =>
      rw [read] at found
      have isError := (clean (parseErrorDiagnostic e) (found ▸ List.mem_cons_self)).1
      exact absurd rfl isError
    | ok document p =>
      have rendered : tryRender .default text = .ok (renderDocument .default document) :=
        congrArg (Except.map _) (parseDocument_of_document read)
      refine ⟨renderDocument .default document, rendered, ?_⟩
      have noWarning : (checkMarkup text).diagnostics.filter (·.severity = .warning) = [] :=
        List.filter_eq_nil_iff.mpr fun d mem => by simpa using (clean d mem).2
      have agrees := forall₂_unknownNames read
      rw [noWarning, List.forall₂_nil_left_iff] at agrees
      have contained := unknown_le_unknownNames {} document
      rw [agrees, Multiset.coe_nil, Multiset.le_zero, Multiset.coe_eq_zero] at contained
      exact List.filterMap_eq_nil_iff.mp contained

/-- An unknown command that is never rendered is warned of like those that are; a text with
a note alone is rendered without such a failure. -/
theorem checkMarkup_agrees_hidden :
    let text :=
      "\\if\x7btrue \\b\x7b\\shout\x7bx\x7d\x7d \\whisper\x7by\x7d\x7d\n\n\\shout \\i\x7bopen"
    let document : Document := ⟨[
      ⟨[.command "if" [.text "true", .space, .command "b" [.command "shout" [.text "x"]], .space,
        .command "whisper" [.text "y"]]]⟩,
      ⟨[.command "shout" [], .command "i" [.text "open"]]⟩]⟩
    (∃ p, Parser.document (Parser.mk defaultMaxDepth 0 1 []) (tokenize text) = .ok document p ∧
      List.Forall₂ (fun d name => ∃ line, d = unknownCommandWarning name line)
        ((checkMarkup text).diagnostics.filter (·.severity = .warning)) document.unknownNames ∧
      (checkMarkup text).diagnostics.filter (·.severity = .info) =
        p.implicitCloses.map openListNote ∧
      (↑["shout", "shout"] : Multiset String) ≤ ↑document.unknownNames) ∧
      ∃ output, tryRender .default "\\b\x7bx" = .ok output ∧
        ∀ w ∈ output.warnings, w.unknownCommand? = none := by
  intro text document
  constructor
  · have parsed : parseDocument text = .ok document := by decide +kernel
    have failed : (renderDocument .default document).warnings.filterMap Warning.unknownCommand? =
        ["shout", "shout"] := by decide +kernel
    cases read : Parser.document (Parser.mk defaultMaxDepth 0 1 []) (tokenize text) with
    | error e p =>
      rw [parseDocument, read] at parsed
      cases parsed
    | ok d p =>
      rw [parseDocument, read] at parsed
      cases parsed
      obtain ⟨-, warnings, notes, contained⟩ := (checkMarkup_agrees text).1 document p read
      rw [failed] at contained
      exact ⟨p, rfl, warnings, notes, contained⟩
  · have clean : ∀ d ∈ (checkMarkup "\\b\x7bx").diagnostics,
        d.severity ≠ .error ∧ d.severity ≠ .warning := by decide +kernel
    exact (checkMarkup_agrees "\\b\x7bx").2 clean

end TexMarkup
