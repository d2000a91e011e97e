import TexMarkup.Proofs.Evaluation.Command

/-!
# Hosts that render children and delegate

A host may bring commands of its own. Many of them do nothing to the evaluation but
render their children and ask the built-in table for other commands; what they make of
the texts is up to them. Such commands follow plans, as those of the table do.

## Main definitions

* `Script`, `Script.run`: a command that only renders children and delegates.
* `Setting.Delegates`: all commands of the host are of this kind.
* `Setting.Follows`: they follow scripts that are of some kind themselves.
* `Commander.scripted`: the host with given scripts.

## Main results

* `delegates_standard`, `delegates_actionable`, `delegates_templates`,
  `delegates_scripted`: hosts of this kind.
* `Setting.Delegates.exists_plan`: every command follows a plan.
-/

namespace TexMarkup

/-! ## Commands of a host -/

/-- What a command of a host does until its text is complete. Children are chosen by
their positions. -/
inductive Script where
  /-- The text is complete. -/
  | done (html : String)
  /-- Renders some children from left to right. -/
  | render (positions : List Nat) (next : String → Script)
  /-- Asks the built-in table for a command with some of the children. -/
  | delegate (name : String) (positions : List Nat) (next : String → Script)
  /-- Records a failure. -/
  | fail (command : String) (e : CommandError) (next : String → Script)

/-- The elements at the positions that there are. -/
def select {α : Type} (xs : List α) (positions : List Nat) : List α :=
  positions.filterMap fun i => xs[i]?

/-- All positions in order select the whole list. -/
theorem select_range {α : Type} (xs : List α) : select xs (List.range xs.length) = xs := by
  induction xs with
  | nil => rfl
  | cons x xs ih =>
    rw [select, List.length_cons, List.range_succ_eq_map]
    show x :: List.filterMap _ _ = x :: xs
    rw [List.filterMap_map]
    exact congrArg (x :: ·) ih

theorem select_map {α β : Type} (f : α → β) (xs : List α) (positions : List Nat) :
    select (xs.map f) positions = (select xs positions).map f := by
  simp only [select, List.getElem?_map, List.map_filterMap]

/-- Only elements of the list are selected, though perhaps more than once. -/
theorem select_subset {α : Type} (xs : List α) (positions : List Nat) :
    select xs positions ⊆ xs := by
  intro x mem
  obtain ⟨i, -, at_⟩ := List.mem_filterMap.mp mem
  exact List.mem_of_getElem? at_

variable [AddressReader] [SpecialFunctions]

/-- Does what the script says. -/
def Script.run (setting : Setting) (clauses : List Clause) : Script → Eval String
  | done html => pure html
  | render positions next => do
    let html ← renderAll (select clauses positions)
    (next html).run setting clauses
  | delegate name positions next => do
    let html ← builtin setting name (select clauses positions)
    (next html).run setting clauses
  | fail command e next => do
    let html ← TexMarkup.fail command e
    (next html).run setting clauses

/-- The commands of the host only render their children and delegate. Which children
and what else may depend on how the children were written. -/
def Setting.Delegates (setting : Setting) : Prop :=
  ∀ name command, setting.commander.custom name = some command →
    ∃ script : List Node → Script,
      ∀ clauses, command clauses = (script (clauses.map Clause.node)).run setting clauses

/-- The commands of the host follow scripts of this kind. -/
def Setting.Follows (setting : Setting) (kind : String → List Node → Script → Prop) : Prop :=
  ∀ name command, setting.commander.custom name = some command →
    ∃ script : List Node → Script, (∀ nodes, kind name nodes (script nodes)) ∧
      ∀ clauses, command clauses = (script (clauses.map Clause.node)).run setting clauses

/-- The host whose commands are given by scripts. -/
def Commander.scripted (resolver : Option Resolver)
    (script : String → Option (List Node → Script)) (options : Options) : Commander where
  resolver := resolver
  custom name := (script name).map fun script clauses =>
    (script (clauses.map Clause.node)).run ⟨{ resolver := resolver }, options⟩ clauses

/-- The answers of the host, if it has a resolver. -/
def Setting.answer (setting : Setting) (r : Reference) : Option String :=
  match setting.commander.resolver, r with
  | none, _ => none
  | some resolver, .entity kind id => resolver.entity kind id
  | some resolver, .user name => resolver.user name

variable {setting setting' : Setting} {name : String} {nodes : List Node}

/-! ## Hosts of this kind -/

/-- The built-in table knows nothing of the commands of the host, nor how deep it is. -/
theorem builtin_eq_of_resolver_eq
    (resolver : setting.commander.resolver = setting'.commander.resolver)
    (baseUrl : setting.options.baseUrl = setting'.options.baseUrl) (name : String)
    (clauses : List Clause) :
    builtin setting name clauses = builtin setting' name clauses := by
  obtain ⟨⟨_, custom⟩, ⟨_, _, _⟩⟩ := setting
  obtain ⟨⟨_, custom'⟩, ⟨_, _, _⟩⟩ := setting'
  cases resolver
  cases baseUrl
  unfold builtin
  split
  · rfl
  · rename_i handler _
    cases handler <;> rfl

/-- A script depends on no more of a setting than its resolver and its base address. -/
theorem Script.run_eq_of_resolver_eq
    (resolver : setting.commander.resolver = setting'.commander.resolver)
    (baseUrl : setting.options.baseUrl = setting'.options.baseUrl) (script : Script)
    (clauses : List Clause) : script.run setting clauses = script.run setting' clauses := by
  induction script with
  | done html => rfl
  | render positions next ih => simp only [run, ih]
  | delegate name positions next ih =>
    simp only [run, ih, builtin_eq_of_resolver_eq resolver baseUrl]
  | fail command e next ih => simp only [run, ih]

section Kinds

variable {kind : String → List Node → Script → Prop}

/-- A host that follows scripts of some kind delegates. -/
theorem Setting.Follows.delegates (h : setting.Follows kind) : setting.Delegates := by
  intro name command found
  obtain ⟨script, -, follows⟩ := h name command found
  exact ⟨script, follows⟩

/-- Without a host every command follows the table. -/
theorem follows_standard (options : Options) : Setting.Follows ⟨.standard, options⟩ kind :=
  fun _ _ impossible => nomatch impossible

theorem follows_actionable (resolver : Resolver) (options : Options) :
    Setting.Follows ⟨.actionable resolver, options⟩ kind :=
  fun _ _ impossible => nomatch impossible

theorem follows_scripted {resolver : Option Resolver}
    {scripts : String → Option (List Node → Script)} {options : Options}
    (h : ∀ name script, scripts name = some script → ∀ nodes, kind name nodes (script nodes)) :
    Setting.Follows ⟨.scripted resolver scripts options, options⟩ kind := by
  intro name command found
  obtain ⟨script, given, rfl⟩ := Option.map_eq_some_iff.mp found
  refine ⟨script, h name script given, fun clauses => ?_⟩
  apply Script.run_eq_of_resolver_eq <;> rfl

/-- The script of a template: all children between two texts. -/
def Script.template (opening closing : String) (nodes : List Node) : Script :=
  .render (List.range nodes.length) fun html => .done (opening ++ html ++ closing)

/-- Templates follow scripts that render their children between two texts. -/
theorem follows_templates {table : List (String × String × String)} {options : Options}
    (h : ∀ name nodes opening closing, kind name nodes (.template opening closing nodes)) :
    Setting.Follows ⟨.templates table, options⟩ kind := by
  intro name command found
  obtain ⟨⟨opening, closing⟩, -, rfl⟩ := Option.map_eq_some_iff.mp found
  refine ⟨.template opening closing, fun nodes => h name nodes opening closing, fun clauses => ?_⟩
  rw [Script.template, Script.run, List.length_map, select_range]
  rfl

end Kinds

/-- Scripts of any kind. -/
theorem Setting.Follows.of_any (h : setting.Follows fun _ _ _ => True) : setting.Delegates :=
  h.delegates

theorem delegates_standard (options : Options) : Setting.Delegates ⟨.standard, options⟩ :=
  (follows_standard options).of_any

theorem delegates_actionable (resolver : Resolver) (options : Options) :
    Setting.Delegates ⟨.actionable resolver, options⟩ :=
  (follows_actionable resolver options).of_any

theorem delegates_scripted (resolver : Option Resolver)
    (scripts : String → Option (List Node → Script)) (options : Options) :
    Setting.Delegates ⟨.scripted resolver scripts options, options⟩ :=
  (follows_scripted fun _ _ _ _ => trivial).of_any

theorem delegates_templates (table : List (String × String × String)) (options : Options) :
    Setting.Delegates ⟨.templates table, options⟩ :=
  (follows_templates fun _ _ _ _ => trivial).of_any

/-! ## Plans of commands -/

/-- The access of a command that stands in a tree. -/
def Setting.access (setting : Setting) : Access :=
  ⟨setting.answer, Node.render setting⟩

/-- The clauses of nodes are those of an access that renders every node as the setting does. -/
theorem Node.clauses_eq (setting : Setting) (nodes : List Node) :
    Node.clauses setting nodes = setting.access.clauses nodes := by
  induction nodes with
  | nil => rfl
  | cons node nodes ih => exact congrArg (⟨node, node.render setting⟩ :: ·) ih

theorem Node.map_node_clauses (setting : Setting) (nodes : List Node) :
    (Node.clauses setting nodes).map Clause.node = nodes := by
  rw [Node.clauses_eq, Access.clauses, List.map_map]
  exact List.map_id' nodes

/-- A command that the host leaves to the table is evaluated by it one level further down. -/
theorem Node.render_of_noCustom {children : List Node} {s : Session}
    (noCustom : setting.commander.custom name = none) (fits : s.depth < setting.options.maxDepth) :
    (Node.command name children).render setting s =
      let (html, s') := builtin setting name (Node.clauses setting children)
        { s with depth := s.depth + 1 }
      (html, { s' with depth := s'.depth - 1 }) := by
  have builtIn : evaluate setting name (Node.clauses setting children) =
      builtin setting name (Node.clauses setting children) := by
    rw [evaluate, noCustom]
  rw [Node.render, builtIn]
  exact if_neg (Nat.not_le.mpr fits)

theorem select_clauses (setting : Setting) (nodes : List Node) (positions : List Nat) :
    select (Node.clauses setting nodes) positions =
      Node.clauses setting (select nodes positions) := by
  rw [Node.clauses_eq, Node.clauses_eq]
  exact select_map _ nodes positions

/-- A command of the table knows of its setting whether the host answers references, what it
answers and where links begin. -/
theorem builtin_eq_setting (setting : Setting) {render : Node → Eval String} {hosted : Bool}
    {options : Options} (isHosted : hosted = setting.commander.resolver.isSome)
    (baseUrl : options.baseUrl = setting.options.baseUrl) (name : String) (clauses : List Clause) :
    builtin setting name clauses =
      builtin (Access.setting ⟨setting.answer, render⟩ hosted options) name clauses := by
  refine builtin_eq_of_resolver_eq ?_ baseUrl.symm name clauses
  simp only [isHosted, Access.setting, Setting.answer]
  cases setting.commander.resolver <;> rfl

/-- A command of the table follows a plan up to its failure. -/
theorem builtin_exists_attempt (setting : Setting) (name : String) (nodes : List Node) :
    ∃ plan : Plan (Except CommandError String), plan.InOrder nodes ∧
      plan.Gives (fun result => ∀ e, result = .error e → e.GivenTo name)
          (Node.command name nodes).reference?.toList ∧ ∀ render,
        builtin setting name (Access.clauses ⟨setting.answer, render⟩ nodes) =
          (plan.bind (Plan.marked name)).run ⟨setting.answer, render⟩ := by
  obtain ⟨plan, inOrder, gives, follows⟩ :=
    planned_builtin setting.commander.resolver.isSome setting.options name nodes
  refine ⟨plan, inOrder, gives, fun render => ?_⟩
  rw [← follows]
  exact builtin_eq_setting setting rfl rfl name _

/-- A command of the table follows a plan. -/
theorem builtin_exists_plan (setting : Setting) (name : String) (nodes : List Node) :
    ∃ plan : Plan String, plan.Among nodes ∧ ∀ render,
      builtin setting name (Access.clauses ⟨setting.answer, render⟩ nodes) =
        plan.run ⟨setting.answer, render⟩ := by
  obtain ⟨plan, inOrder, -, follows⟩ := builtin_exists_attempt setting name nodes
  exact ⟨plan.bind (Plan.marked name),
    inOrder.among.bind fun result => (Plan.marked_inOrder name result).among, follows⟩

/-- Every script is a plan over some of its children. -/
private theorem Script.exists_plan (setting : Setting) (nodes : List Node) (script : Script) :
    ∃ plan : Plan String, plan.Among nodes ∧ ∀ render,
      script.run setting (Access.clauses ⟨setting.answer, render⟩ nodes) =
        plan.run ⟨setting.answer, render⟩ := by
  have chosen (positions : List Nat) (render : Node → Eval String) :
      select (Access.clauses ⟨setting.answer, render⟩ nodes) positions =
        Access.clauses ⟨setting.answer, render⟩ (select nodes positions) :=
    select_map _ nodes positions
  induction script with
  | done html => exact ⟨.done html, trivial, fun _ => rfl⟩
  | render positions next ih =>
    obtain ⟨plan, inOrder, -, follows⟩ := planned_renderAll (select nodes positions)
    choose plans among follows' using ih
    have within := inOrder.among.mono (select_subset nodes positions)
    refine ⟨plan.bind plans, within.bind among, fun render => ?_⟩
    simp only [run, chosen, follows, follows', Plan.run_bind]
  | delegate name positions next ih =>
    obtain ⟨plan, among', follows⟩ := builtin_exists_plan setting name (select nodes positions)
    choose plans among follows' using ih
    have within := among'.mono (select_subset nodes positions)
    refine ⟨plan.bind plans, within.bind among, fun render => ?_⟩
    simp only [run, chosen, follows, follows', Plan.run_bind]
  | fail command e next ih =>
    obtain ⟨plan, among, follows⟩ := ih e.marker
    refine ⟨.fail command e plan, among, fun render => ?_⟩
    rw [Plan.run, ← follows]
    rfl

/-- Whatever the children render to, a command does what one and the same plan says,
if the commands of the host only render their children and delegate. -/
theorem Setting.Delegates.exists_plan (delegates : setting.Delegates) (name : String)
    (nodes : List Node) :
    ∃ plan : Plan String, plan.Among nodes ∧ ∀ render,
      evaluate setting name (Access.clauses ⟨setting.answer, render⟩ nodes) =
        plan.run ⟨setting.answer, render⟩ := by
  unfold evaluate
  split
  · rename_i command found
    obtain ⟨script, follows⟩ := delegates name command found
    have written (render : Node → Eval String) :
        (Access.clauses ⟨setting.answer, render⟩ nodes).map Clause.node = nodes := by
      simp only [Access.clauses, List.map_map, Function.comp_def, List.map_id']
    simp only [follows, written]
    exact Script.exists_plan setting nodes (script nodes)
  · exact builtin_exists_plan setting name nodes

end TexMarkup
