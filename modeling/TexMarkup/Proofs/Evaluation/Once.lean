import Mathlib.Algebra.BigOperators.Group.Multiset.Basic
import Mathlib.Data.Multiset.Range
import TexMarkup.Proofs.Document.Names
import TexMarkup.Proofs.Evaluation.Account

/-!
# Every command is evaluated once at most

Forms that choose render what they need for the choice and what is chosen in separate
steps, and so do links with their targets and descriptions. No child is rendered in two of
them. So a command of a document leaves one warning at most and asks the host once at
most, however deep it lies, and whatever else a document records comes from nowhere.

## Main definitions

* `Script.Once`, `Setting.DelegatesOnce`: hosts that render their children once at most.

## Main results

* `delegatesOnce_standard`, `delegatesOnce_actionable`, `delegatesOnce_templates`: hosts of
  this kind.
* `Setting.DelegatesOnce.covers`: their commands stay within their budgets.
* `records_le_commands`: warnings and questions belong to commands of the document.
-/

namespace TexMarkup

/-- The script renders each of the unused children once at most. It either records one
failure at most, under the name of its command, or leaves the command with all of its
children to the table, if it has done nothing to them and recorded no failure. -/
def Script.Once (name : String) (count : Nat) : Script → Multiset Nat → Bool → Prop
  | done _, _, _ => True
  | render positions next, unused, blameless =>
    ∃ rest, ↑positions + rest ≤ unused ∧ ∀ html, (next html).Once name count rest blameless
  | delegate name' positions next, unused, blameless =>
    name' = name ∧ positions = List.range count ∧ blameless = true ∧
      ∃ rest, ↑positions + rest ≤ unused ∧ ∀ html, (next html).Once name count rest false
  | fail command _ next, unused, blameless =>
    command = name ∧ blameless = true ∧ ∀ html, (next html).Once name count unused false

/-- The commands of the host render their children once at most, or leave all of them to
the table. -/
def Setting.DelegatesOnce [AddressReader] [SpecialFunctions] (setting : Setting) : Prop :=
  setting.Follows fun name nodes script =>
    script.Once name nodes.length (Multiset.range nodes.length) true

theorem Script.once_template (name opening closing : String) (nodes : List Node) :
    (Script.template opening closing nodes).Once name nodes.length (Multiset.range nodes.length)
      true :=
  ⟨0, (add_zero _).le, fun _ => trivial⟩

section Hosts

variable [AddressReader] [SpecialFunctions]

theorem delegatesOnce_standard (options : Options) : Setting.DelegatesOnce ⟨.standard, options⟩ :=
  follows_standard options

theorem delegatesOnce_actionable (resolver : Resolver) (options : Options) :
    Setting.DelegatesOnce ⟨.actionable resolver, options⟩ :=
  follows_actionable resolver options

theorem delegatesOnce_templates (table : List (String × String × String)) (options : Options) :
    Setting.DelegatesOnce ⟨.templates table, options⟩ :=
  follows_templates fun name nodes opening closing =>
    Script.once_template name opening closing nodes

end Hosts

/-! ## Budgets of scripts -/

variable {γ : Type} {a : Account γ} {depth : Nat} {name : String} {nodes : List Node}

/-- What the children at the positions may be charged with. -/
def Account.pool (a : Account γ) (nodes : List Node) (positions : Multiset Nat) : Multiset γ :=
  (positions.map fun i => a.budget nodes[i]?.toList).sum

namespace Account

theorem pool_add (positions positions' : Multiset Nat) :
    a.pool nodes (positions + positions') = a.pool nodes positions + a.pool nodes positions' := by
  rw [pool, Multiset.map_add, Multiset.sum_add, pool, pool]

theorem pool_mono {positions positions' : Multiset Nat} (h : positions ≤ positions') :
    a.pool nodes positions ≤ a.pool nodes positions' := by
  obtain ⟨more, rfl⟩ := Multiset.le_iff_exists_add.mp h
  rw [pool_add]
  exact Multiset.le_add_right _ _

theorem budget_select (nodes : List Node) (positions : List Nat) :
    a.budget (select nodes positions) = a.pool nodes ↑positions := by
  induction positions with
  | nil => exact budget_nil
  | cons i positions ih =>
    have head : select nodes (i :: positions) = nodes[i]?.toList ++ select nodes positions := by
      rw [select, List.filterMap_cons]
      cases nodes[i]? <;> rfl
    rw [head, budget_append, ih, ← Multiset.cons_coe, pool, pool, Multiset.map_cons,
      Multiset.sum_cons]

end Account

section Scripts

variable [AddressReader] [SpecialFunctions] {setting : Setting}

/-- A script is charged with the children that it may still render, and with its own
failure or what the table makes of its command as long as there is none. -/
theorem Script.Once.run_costs {script : Script} {unused : Multiset Nat} {blameless : Bool}
    (once : script.Once name nodes.length unused blameless)
    (blamed : ∀ message, a.warning ⟨some name, message⟩ ≤ a.blame name)
    (each : ∀ node ∈ nodes, Costs a depth (node.render setting) (a.budget [node])) :
    Costs a depth (script.run setting (Node.clauses setting nodes))
      (a.pool nodes unused + if blameless then a.own (.command name nodes) else 0) := by
  -- Every step takes its part of the budget away: the children from the unused ones, and a
  -- failure or the table whatever the command may be charged with itself.
  induction script generalizing unused blameless with
  | done html => exact (Costs.pure html).mono (Multiset.zero_le _)
  | render positions next ih =>
    obtain ⟨rest, within, later⟩ := once
    have chosen : ∀ node ∈ select nodes positions,
        Costs a depth (node.render setting) (a.budget [node]) :=
      fun node mem => each node (select_subset nodes positions mem)
    have step := (renderNodes_costs chosen).bind fun html => ih html (later html)
    rw [Script.run, select_clauses]
    refine step.mono ?_
    rw [Account.budget_select, ← add_assoc, ← Account.pool_add]
    have paid : a.pool nodes (↑positions + rest) ≤ a.pool nodes unused := Account.pool_mono within
    gcongr
  | delegate name' positions next ih =>
    obtain ⟨rfl, rfl, rfl, rest, within, later⟩ := once
    have step := (builtin_costs (fun e _ => blamed e.message) each).bind
      fun html => ih html (later html)
    rw [Script.run, select_clauses, select_range]
    refine step.mono ?_
    have paid : a.pool nodes (↑(List.range nodes.length) + rest) ≤ a.pool nodes unused :=
      Account.pool_mono within
    rw [Account.pool_add, ← Account.budget_select, select_range] at paid
    calc a.budget [.command name' nodes] + (a.pool nodes rest + 0)
      _ = a.budget nodes + a.pool nodes rest + a.own (.command name' nodes) := by
        rw [Account.budget_command]
        abel
      _ ≤ a.pool nodes unused + a.own (.command name' nodes) := by gcongr
  | fail command e next ih =>
    obtain ⟨rfl, rfl, later⟩ := once
    have step := (Costs.fail command e).bind fun html => ih html (later html)
    refine step.mono ?_
    have paid : a.warning ⟨some command, e.message⟩ ≤ a.own (.command command nodes) :=
      (blamed e.message).trans (Multiset.le_add_right _ _)
    calc a.warning ⟨some command, e.message⟩ + (a.pool nodes unused + 0)
      _ = a.pool nodes unused + a.warning ⟨some command, e.message⟩ := by abel
      _ ≤ a.pool nodes unused + a.own (.command command nodes) := by gcongr

/-- The commands of a host stay within their budgets, if all of their failures are paid
for. -/
theorem Setting.DelegatesOnce.covers (h : setting.DelegatesOnce)
    (blamed : ∀ name message, a.warning ⟨some name, message⟩ ≤ a.blame name) :
    a.Covers setting := by
  intro name children depth each
  unfold evaluate
  split
  · rename_i command found
    obtain ⟨script, once, follows⟩ := h name command found
    rw [follows, Node.map_node_clauses]
    refine ((once children).run_costs (blamed name) each).mono (le_of_eq ?_)
    have whole := Account.budget_select (a := a) children (List.range children.length)
    rw [select_range] at whole
    rw [Account.budget_command, whole]
    exact add_comm _ _
  · exact builtin_costs (fun e _ => blamed name e.message) each

end Scripts

/-! ## Records and commands -/

/-- Every warning is charged with the name of its command. -/
def nameAccount : Account (Option String) where
  warning w := {w.command}
  lookup _ := 0
  blame name := {some name}

/-- Every question is charged with itself. -/
def questionAccount : Account Reference where
  warning _ := 0
  lookup r := {r}
  blame _ := 0

theorem nameAccount_own (node : Node) :
    nameAccount.own node = ↑(node.commandName?.map some).toList := by
  cases node with
  | command name children => exact Account.own_command (fun _ => rfl) name children
  | text content => rfl
  | space => rfl

theorem questionAccount_own (node : Node) : questionAccount.own node = ↑node.reference?.toList := by
  cases node with
  | command name children =>
    rw [Account.own]
    show 0 + ((Node.command name children).reference?.toList.map
      fun r => ({r} : Multiset _)).sum = _
    rw [zero_add, sum_map_singleton, List.map_id']
  | text content => rfl
  | space => rfl

/-- The questions to the host are those that the commands of the document name. -/
theorem lookups_le_references [AddressReader] [SpecialFunctions] {setting : Setting}
    (h : setting.DelegatesOnce) (document : Document) :
    (↑(renderDocument setting document).lookups : Multiset Reference) ≤
      ↑(document.walk.filterMap Node.reference?) := by
  have charge : _ ≤ (document.walk.map questionAccount.own).sum :=
    renderDocument_costs (h.covers fun _ _ => le_rfl) (.inr fun _ _ => le_rfl)
  have asked := sum_map_singleton id (renderDocument setting document).lookups
  rw [List.map_id] at asked
  calc (↑(renderDocument setting document).lookups : Multiset Reference)
    _ = ((renderDocument setting document).lookups.map questionAccount.lookup).sum := asked.symm
    _ ≤ (document.walk.map questionAccount.own).sum := (Multiset.le_add_left _ _).trans charge
    _ = ↑(document.walk.filterMap Node.reference?) := by
      rw [funext questionAccount_own, sum_map_toList]

/-- The commands in warnings are commands of the document, and the questions to the host
are those that its commands name, each as often as it stands there at most: what is
rendered leaves no second warning and asks no second time. -/
theorem records_le_commands [AddressReader] [SpecialFunctions] {setting : Setting}
    (h : setting.DelegatesOnce) (document : Document) :
    (↑((renderDocument setting document).warnings.map Warning.command) : Multiset (Option String)) ≤
        ↑(document.names.map some) ∧
      (↑(renderDocument setting document).lookups : Multiset Reference) ≤
        ↑(document.walk.filterMap Node.reference?) := by
  constructor
  · have charge : _ ≤ (document.walk.map nameAccount.own).sum :=
      renderDocument_costs (h.covers fun _ _ => le_rfl) (.inr fun _ _ => le_rfl)
    have named := sum_map_toList (fun node : Node => node.commandName?.map some) document.walk
    calc (↑((renderDocument setting document).warnings.map Warning.command) : Multiset _)
      _ = ((renderDocument setting document).warnings.map nameAccount.warning).sum :=
        (sum_map_singleton _ _).symm
      _ ≤ (document.walk.map nameAccount.own).sum := (Multiset.le_add_right _ _).trans charge
      _ = ↑(document.names.map some) := by
        rw [funext nameAccount_own, named, Document.names, List.map_filterMap]
  · exact lookups_le_references h document

/-- A test that is no truth value warns twice, under different names, and hides one
reference; the other two are asked about once each. -/
theorem records_le_commands_nested :
    let resolver : Resolver :=
      ⟨fun _ _ => none, fun name => if name = "ann" then some "<b>ann</b>" else none⟩
    let host := Commander.scripted (some resolver) (fun name =>
      if name = "note" then some (Script.template "<aside>" "</aside>") else none) {}
    let document : Document := ⟨[⟨[.command "note" [
      .command "if" [.command "not" [.text "maybe"], .command "user" [.text "ann"]],
      .command "when" [.text "true", .command "user" [.text "bob"]],
      .command "user" [.text "ann"], .command "missing" []]]⟩]⟩
    Setting.DelegatesOnce ⟨host, {}⟩ ∧
      (↑[some "not", some "if", some "user", some "missing"] : Multiset (Option String)) ≤
        ↑(document.names.map some) ∧
      (↑[Reference.user "bob", Reference.user "ann"] : Multiset Reference) ≤
        ↑(document.walk.filterMap Node.reference?) := by
  intro resolver host document
  have once : Setting.DelegatesOnce ⟨host, {}⟩ := by
    refine follows_scripted fun name script found nodes => ?_
    split at found
    · cases found
      exact Script.once_template name "<aside>" "</aside>" nodes
    · cases found
  have warned : (renderDocument ⟨host, {}⟩ document).warnings.map Warning.command =
      [some "not", some "if", some "user", some "missing"] := by decide +kernel
  have asked : (renderDocument ⟨host, {}⟩ document).lookups =
      [Reference.user "bob", Reference.user "ann"] := by decide +kernel
  have contained := records_le_commands once document
  rw [warned, asked] at contained
  exact ⟨once, contained⟩

end TexMarkup
