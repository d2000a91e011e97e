import Mathlib.Algebra.Order.BigOperators.Group.List
import Mathlib.Algebra.Order.Group.Multiset
import Mathlib.Tactic.Abel
import TexMarkup.Proofs.Document.Canonical
import TexMarkup.Proofs.Document.Walk
import TexMarkup.Proofs.Evaluation.Isolation

/-!
# What evaluations record

An account charges for the warnings and questions that an evaluation records. Every node
of a document has a budget: what the command may be blamed for, and what it asks the host
about. If each command stays within what it and its children have, so does a document,
since no child is rendered twice.

## Main definitions

* `Account`, `Account.total`: charges for records.
* `Costs`: an evaluation that stays within a budget.
* `Account.own`, `Account.budget`: the budgets of a node and of all nodes of trees.
* `Account.Covers`: all commands stay within their budgets.

## Main results

* `Plan.run_costs`: what is done in order costs as much as its parts.
* `builtin_costs`: the commands of the table.
* `Node.render_costs`, `renderDocument_costs`: trees and documents.
-/

namespace TexMarkup

/-- What is charged for each record. -/
structure Account (γ : Type) where
  /-- The charge for a warning. -/
  warning : Warning → Multiset γ
  /-- The charge for a question to the host. -/
  lookup : Reference → Multiset γ
  /-- What a command may be charged with for its failure. -/
  blame : String → Multiset γ

variable {α β γ : Type} {a : Account γ} {depth : Nat} {cost cost' : Multiset γ}

/-- The charge for all records of a session. -/
def Account.total (a : Account γ) (s : Session) : Multiset γ :=
  (s.warnings.map a.warning).sum + (s.lookups.map a.lookup).sum

/-- Begun at the depth, the evaluation ends there, and the charge for its records is no more
than the cost. -/
def Costs (a : Account γ) (depth : Nat) (evaluation : Eval α) (cost : Multiset γ) : Prop :=
  ∀ s, s.depth = depth →
    (evaluation s).2.depth = depth ∧ a.total (evaluation s).2 ≤ a.total s + cost

/-! ## Steps and plans -/

namespace Costs

variable {evaluation : Eval α}

theorem pure (x : α) : Costs a depth (Pure.pure x : Eval α) 0 :=
  fun s at_ => ⟨at_, (add_zero (a.total s)).ge⟩

theorem mono (h : Costs a depth evaluation cost) (more : cost ≤ cost') :
    Costs a depth evaluation cost' := by
  intro s at_
  obtain ⟨stays, charge⟩ := h s at_
  exact ⟨stays, charge.trans (by gcongr)⟩

theorem bind {next : α → Eval β} (h : Costs a depth evaluation cost)
    (h' : ∀ x, Costs a depth (next x) cost') :
    Costs a depth (evaluation >>= next) (cost + cost') := by
  intro s at_
  obtain ⟨stays, charge⟩ := h s at_
  obtain ⟨stays', charge'⟩ := h' (evaluation s).1 (evaluation s).2 stays
  refine ⟨stays', ?_⟩
  calc a.total ((evaluation >>= next) s).2
    _ ≤ a.total (evaluation s).2 + cost' := charge'
    _ ≤ a.total s + cost + cost' := by gcongr
    _ = a.total s + (cost + cost') := add_assoc _ _ _

theorem fail (command : String) (e : CommandError) :
    Costs a depth (TexMarkup.fail command e) (a.warning ⟨some command, e.message⟩) := by
  intro s at_
  refine ⟨at_, le_of_eq ?_⟩
  simp only [TexMarkup.fail, Account.total, List.map_append, List.sum_append, List.map_cons,
    List.map_nil, List.sum_cons, List.sum_nil, add_zero]
  exact add_right_comm _ _ _

theorem recordLookup (r : Reference) : Costs a depth (TexMarkup.recordLookup r) (a.lookup r) := by
  intro s at_
  refine ⟨at_, le_of_eq ?_⟩
  simp only [TexMarkup.recordLookup, Account.total, List.map_append, List.sum_append, List.map_cons,
    List.map_nil, List.sum_cons, List.sum_nil, add_zero]
  exact (add_assoc _ _ _).symm

/-- A level further down, if there is room for it or the failure is paid for. -/
theorem nested {command : Eval String} {limit : Nat} {name : String}
    (h : Costs a (depth + 1) command cost)
    (room : depth < limit ∨ a.warning ⟨some name, (CommandError.tooDeep limit).message⟩ ≤ cost) :
    Costs a depth (nested limit name command) cost := by
  intro s at_
  rw [TexMarkup.nested]
  by_cases deep : limit ≤ s.depth
  · rw [if_pos deep]
    have paid := room.resolve_left (by omega)
    exact (fail name (.tooDeep limit)).mono paid s at_
  · rw [if_neg deep]
    obtain ⟨stays, charge⟩ := h { s with depth := s.depth + 1 } (by rw [at_])
    refine ⟨?_, charge⟩
    show (command { s with depth := s.depth + 1 }).2.depth - 1 = depth
    omega

end Costs

/-- What is left out of a list is not charged. -/
theorem sum_map_le_of_sublist {xs ys : List α} (f : α → Multiset γ) (h : xs.Sublist ys) :
    (xs.map f).sum ≤ (ys.map f).sum :=
  (h.map f).sum_le_sum fun _ _ => Multiset.zero_le _

/-- The elements that are found, counted one by one. -/
theorem sum_map_toList (f : α → Option γ) (xs : List α) :
    (xs.map fun x => (↑(f x).toList : Multiset γ)).sum = ↑(xs.filterMap f) := by
  induction xs with
  | nil => rfl
  | cons x xs ih =>
    rw [List.map_cons, List.sum_cons, ih, List.filterMap_cons]
    cases f x <;> rfl

theorem sum_map_singleton (f : α → γ) (xs : List α) :
    (xs.map fun x => ({f x} : Multiset γ)).sum = ↑(xs.map f) := by
  have counted := sum_map_toList (fun x => some (f x)) xs
  rwa [List.filterMap_eq_map'] at counted

/-- A plan that is in order costs what its children and its questions do, and what comes
after its result. -/
theorem Plan.run_costs (access : Access) {plan : Plan α} {nodes : List Node}
    {questions : List Reference} {P : α → Prop} {price : Node → Multiset γ} {rest : Multiset γ}
    {next : α → Eval β} (inOrder : plan.InOrder nodes) (gives : plan.Gives P questions)
    (each : ∀ node ∈ nodes, Costs a depth (access.render node) (price node))
    (after : ∀ x, P x → Costs a depth (next x) rest) :
    Costs a depth (plan.run access >>= next)
      ((nodes.map price).sum + (questions.map a.lookup).sum + rest) := by
  -- A plan in order never goes back, so a step is paid for by the head of a list and what
  -- follows by its tail.
  induction plan generalizing nodes questions with
  | done x => exact (after x gives).mono (Multiset.le_add_left _ _)
  | render child plan ih =>
    obtain ⟨later, split, inLater⟩ := inOrder
    have eachLater : ∀ node ∈ later, Costs a depth (access.render node) (price node) :=
      fun node mem => each node (split.subset (List.mem_cons_of_mem _ mem))
    have step := (each child (split.subset List.mem_cons_self)).bind
      fun html => ih html (inLater html) (gives html) eachLater
    rw [run, bind_assoc]
    refine step.mono ?_
    have split' := sum_map_le_of_sublist price split
    rw [List.map_cons, List.sum_cons] at split'
    rw [← add_assoc, ← add_assoc]
    gcongr
  | ask r plan ih =>
    obtain ⟨later, split, gives'⟩ := gives
    have asked : Costs a depth (recordLookup r) (a.lookup r) := .recordLookup r
    have step := asked.bind fun _ => ih (access.answer r) (inOrder _) (gives' _) each
    rw [run, bind_assoc]
    refine step.mono ?_
    have split' := sum_map_le_of_sublist a.lookup split
    rw [List.map_cons, List.sum_cons] at split'
    rw [← add_assoc, add_left_comm]
    gcongr
  | fail command e plan ih => exact gives.elim

/-! ## Trees -/

/-- What a node may be charged with: what its command may be blamed for, and what it asks
the host about. -/
def Account.own (a : Account γ) : Node → Multiset γ
  | .command name children =>
    a.blame name + ((Node.command name children).reference?.toList.map a.lookup).sum
  | _ => 0

/-- What all nodes of trees may be charged with. -/
def Account.budget (a : Account γ) (nodes : List Node) : Multiset γ :=
  ((Node.walk nodes).map (a.own)).sum

variable {setting : Setting} {name : String} {nodes : List Node}

namespace Account

/-- Where questions are free of charge, a command may only be charged for its failure. -/
theorem own_command (free : ∀ r, a.lookup r = 0) (name : String) (children : List Node) :
    a.own (.command name children) = a.blame name := by
  rw [own, funext free, List.sum_map_zero, add_zero]

theorem budget_nil : a.budget [] = 0 := by
  rw [budget, Node.walk, List.map_nil, List.sum_nil]

theorem budget_append (nodes nodes' : List Node) :
    a.budget (nodes ++ nodes') = a.budget nodes + a.budget nodes' := by
  rw [budget, Node.walk_append, List.map_append, List.sum_append, budget, budget]

theorem budget_command (name : String) (children : List Node) :
    a.budget [.command name children] =
      a.own (.command name children) + a.budget children := by
  rw [budget, Node.walk_command, List.map_cons, List.sum_cons, budget]

/-- The budget of trees is that of each of them. -/
theorem sum_budget (nodes : List Node) :
    (nodes.map fun node => a.budget [node]).sum = a.budget nodes := by
  induction nodes with
  | nil => rw [List.map_nil, List.sum_nil, budget_nil]
  | cons node nodes ih =>
    rw [List.map_cons, List.sum_cons, ih, ← budget_append, List.singleton_append]

variable [AddressReader] [SpecialFunctions]

/-- Every command stays within its own budget and those of its children, if they do. -/
def Covers (a : Account γ) (setting : Setting) : Prop :=
  ∀ name children depth,
    (∀ node ∈ children, Costs a depth (node.render setting) (a.budget [node])) →
      Costs a depth (evaluate setting name (Node.clauses setting children))
        (a.budget [.command name children])

end Account

variable [AddressReader] [SpecialFunctions]

/-- A command of the table may be blamed for its failure. -/
theorem builtin_costs
    (covers : ∀ e : CommandError, e.GivenTo name → a.warning ⟨some name, e.message⟩ ≤ a.blame name)
    (each : ∀ node ∈ nodes, Costs a depth (node.render setting) (a.budget [node])) :
    Costs a depth (builtin setting name (Node.clauses setting nodes))
      (a.budget [.command name nodes]) := by
  obtain ⟨plan, inOrder, gives, follows⟩ := builtin_exists_attempt setting name nodes
  have ended : ∀ result, (∀ e, result = .error e → e.GivenTo name) →
      Costs a depth ((Plan.marked name result).run setting.access) (a.blame name) := by
    intro result fails
    cases result with
    | ok html => exact (Costs.pure html).mono (Multiset.zero_le _)
    | error e =>
      have marked : Costs a depth (pure e.marker : Eval String) 0 := .pure e.marker
      have failed := (Costs.fail name e).bind fun _ => marked
      rw [add_zero] at failed
      exact failed.mono (covers e (fails e rfl))
  have whole := Plan.run_costs setting.access inOrder gives each ended
  rw [Node.clauses_eq, Setting.access, follows, Plan.run_bind]
  refine whole.mono (le_of_eq ?_)
  rw [Account.sum_budget, Account.budget_command, Account.own]
  abel

/-- A tree stays within its budget, if there is room for it or its failures at the limit
are paid for. -/
theorem Node.render_costs (covers : a.Covers setting) (node : Node) (depth : Nat)
    (room : depth + node.depth ≤ setting.options.maxDepth ∨
      ∀ name limit, a.warning ⟨some name, (CommandError.tooDeep limit).message⟩ ≤ a.blame name) :
    Costs a depth (node.render setting) (a.budget [node]) := by
  match node with
  | .text content =>
    rw [Node.render]
    exact (Costs.pure _).mono (Multiset.zero_le _)
  | .space =>
    rw [Node.render]
    exact (Costs.pure _).mono (Multiset.zero_le _)
  | .command name children =>
    rw [Node.depth] at room
    have each : ∀ child ∈ children,
        Costs a (depth + 1) (child.render setting) (a.budget [child]) := by
      intro child mem
      refine Node.render_costs covers child (depth + 1) (room.imp_left fun fits => ?_)
      have below := Node.depth_le_depthList mem
      omega
    rw [Node.render]
    refine (covers name children (depth + 1) each).nested (room.imp (fun fits => by omega) ?_)
    intro paid
    refine (paid name _).trans ?_
    rw [Account.budget_command, Account.own, add_assoc]
    exact Multiset.le_add_right _ _

theorem renderNodes_costs
    (each : ∀ node ∈ nodes, Costs a depth (node.render setting) (a.budget [node])) :
    Costs a depth (renderNodes setting nodes) (a.budget nodes) := by
  obtain ⟨plan, inOrder, gives, follows⟩ := planned_renderAll nodes
  have same : renderAll (setting.access.clauses nodes) = plan.run setting.access := follows _
  have whole := Plan.run_costs setting.access inOrder gives each
    fun html _ => Costs.pure html
  rw [bind_pure, List.map_nil, List.sum_nil, add_zero, add_zero, Account.sum_budget] at whole
  rwa [renderNodes, Node.clauses_eq, same]

theorem renderParagraphs_costs {paragraphs : List Paragraph}
    (each : ∀ paragraph ∈ paragraphs, ∀ node ∈ paragraph.nodes,
      Costs a depth (node.render setting) (a.budget [node])) :
    Costs a depth (renderParagraphs setting paragraphs)
      (a.budget (paragraphs.flatMap Paragraph.nodes)) := by
  induction paragraphs with
  | nil =>
    rw [List.flatMap_nil, Account.budget_nil]
    exact .pure []
  | cons paragraph paragraphs ih =>
    have first := renderNodes_costs (each paragraph List.mem_cons_self)
    have rest := ih fun paragraph mem => each paragraph (List.mem_cons_of_mem _ mem)
    have whole := first.bind fun html => rest.bind fun htmls => Costs.pure (html :: htmls)
    rw [add_zero, ← Account.budget_append] at whole
    exact whole

/-- The records of a document are charged with no more than the budgets of its nodes. -/
theorem renderDocument_costs (covers : a.Covers setting) {document : Document}
    (room : document.NestsWithin setting.options.maxDepth ∨
      ∀ name limit, a.warning ⟨some name, (CommandError.tooDeep limit).message⟩ ≤ a.blame name) :
    ((renderDocument setting document).warnings.map a.warning).sum +
        ((renderDocument setting document).lookups.map a.lookup).sum ≤
      (document.walk.map a.own).sum := by
  have each : ∀ paragraph ∈ document.paragraphs, ∀ node ∈ paragraph.nodes,
      Costs a 0 (node.render setting) (a.budget [node]) := by
    intro paragraph mem node mem'
    refine node.render_costs covers 0 (room.imp_left fun fits => ?_)
    rw [Nat.zero_add]
    exact fits paragraph mem node mem'
  have whole := (renderParagraphs_costs each).bind
    fun htmls => Costs.pure (joinParagraphs setting.options htmls)
  have charge := (whole {} rfl).2
  have nothing : a.total {} = 0 := rfl
  rwa [nothing, zero_add, add_zero] at charge

end TexMarkup
