import TexMarkup.Proofs.Document.Walk
import TexMarkup.Proofs.Evaluation.Host
import TexMarkup.Render

/-!
# Evaluations side by side

One text can be evaluated twice, over different hosts or with different ways to render the
children. What relates the two evaluations of each child relates those of the command, since
both follow one plan, and so it relates the two renderings of a whole document. A relation
that looks at one side only is a property of a single evaluation.

## Main definitions

* `Lockstep`: a relation between evaluations that the steps of a plan keep.
* `DeepLockstep`: it is also kept by going one level further down.
* `Document.rendering`: the evaluation that renders a document.

## Main results

* `Lockstep.run`, `Lockstep.builtin`: plans, and commands of the table.
* `Lockstep.run_alone`, `Lockstep.builtin_alone`: properties of single evaluations.
* `DeepLockstep.render`, `DeepLockstep.rendering`: trees and documents.
-/

namespace TexMarkup

/-- A relation between evaluations, the first one over a host with the first answers and the
second one over a host with the others, which holds after each step if it holds before. -/
structure Lockstep (answer answer' : Reference → Option String)
    (R : ∀ α : Type, Eval α → Eval α → Prop) : Prop where
  pure : ∀ {α : Type} (x : α), R α (Pure.pure x) (Pure.pure x)
  bind : ∀ {α β : Type} {evaluation evaluation' : Eval α} {next next' : α → Eval β},
    R α evaluation evaluation' → (∀ x, R β (next x) (next' x)) →
      R β (evaluation >>= next) (evaluation' >>= next')
  fail : ∀ command e, R String (TexMarkup.fail command e) (TexMarkup.fail command e)
  /-- A question to the host, with its answer. -/
  ask : ∀ r, R (Option String) (recordLookup r >>= fun _ => Pure.pure (answer r))
    (recordLookup r >>= fun _ => Pure.pure (answer' r))

/-- The relation also holds of commands if it holds of what is done one level further down. -/
structure DeepLockstep (answer answer' : Reference → Option String)
    (R : ∀ α : Type, Eval α → Eval α → Prop) : Prop extends Lockstep answer answer' R where
  nested : ∀ limit name {command command' : Eval String}, R String command command' →
    R String (TexMarkup.nested limit name command) (TexMarkup.nested limit name command')

variable {answer answer' : Reference → Option String} {R : ∀ α : Type, Eval α → Eval α → Prop}
variable {nodes : List Node}

namespace Lockstep

variable {render render' : Node → Eval String}

/-- A plan keeps two hosts in step if all that it renders does. -/
theorem run {α : Type} (h : Lockstep answer answer' R) {plan : Plan α} (among : plan.Among nodes)
    (each : ∀ node ∈ nodes, R String (render node) (render' node)) :
    R α (plan.run ⟨answer, render⟩) (plan.run ⟨answer', render'⟩) := by
  induction plan with
  | done x => exact h.pure x
  | render child next ih => exact h.bind (each child among.1) fun html => ih html (among.2 html)
  | ask r next ih =>
    -- What follows goes by the answer, so the answer is part of the step.
    have asked (answer : Reference → Option String) (render : Node → Eval String) :
        (Plan.ask r next).run ⟨answer, render⟩ =
          (recordLookup r >>= fun _ => Pure.pure (answer r)) >>=
            fun given => (next given).run ⟨answer, render⟩ := rfl
    rw [asked, asked]
    exact h.bind (h.ask r) fun given => ih given (among given)
  | fail command e next ih => exact h.bind (h.fail command e) fun _ => ih among

theorem renderAll (h : Lockstep answer answer' R)
    (each : ∀ node ∈ nodes, R String (render node) (render' node)) :
    R String (TexMarkup.renderAll (Access.clauses ⟨answer, render⟩ nodes))
      (TexMarkup.renderAll (Access.clauses ⟨answer', render'⟩ nodes)) := by
  obtain ⟨plan, inOrder, -, follows⟩ := planned_renderAll nodes
  have follows : ∀ access : Access, TexMarkup.renderAll (access.clauses nodes) = plan.run access :=
    follows
  rw [follows, follows]
  exact h.run inOrder.among each

theorem orMarker (h : Lockstep answer answer' R) {attempt attempt' : Attempt String}
    (own : R _ attempt.run attempt'.run) (name : String) :
    R String (attempt.orMarker name) (attempt'.orMarker name) := by
  refine h.bind own fun result => ?_
  cases result with
  | ok html => exact h.pure html
  | error e => exact h.fail name e

/-- A plan has a property if all that it renders does. -/
theorem run_alone {α : Type} {P : ∀ α : Type, Eval α → Prop}
    (h : Lockstep answer answer fun α evaluation _ => P α evaluation) {plan : Plan α}
    (among : plan.Among nodes) (each : ∀ node ∈ nodes, P String (render node)) :
    P α (plan.run ⟨answer, render⟩) :=
  @run answer answer _ nodes render render α h plan among each

variable [AddressReader] [SpecialFunctions] {setting setting' : Setting}

/-- A command of the table keeps two hosts in step if its children do: both hosts answer
references or neither does. -/
theorem builtin (h : Lockstep setting.answer setting'.answer R)
    (hosted : setting.commander.resolver.isSome = setting'.commander.resolver.isSome)
    (baseUrl : setting.options.baseUrl = setting'.options.baseUrl)
    (each : ∀ node ∈ nodes, R String (render node) (render' node)) (name : String) :
    R String (TexMarkup.builtin setting name (Access.clauses ⟨setting.answer, render⟩ nodes))
      (TexMarkup.builtin setting' name (Access.clauses ⟨setting'.answer, render'⟩ nodes)) := by
  -- The plan looks at nothing in which the settings differ, so both commands follow it.
  obtain ⟨plan, inOrder, -, follows⟩ :=
    planned_builtin setting.commander.resolver.isSome setting.options name nodes
  have among : (plan.bind (Plan.marked name)).Among nodes :=
    inOrder.among.bind fun result => (Plan.marked_inOrder name result).among
  rw [builtin_eq_setting setting rfl rfl, builtin_eq_setting setting' hosted baseUrl, follows,
    follows]
  exact h.run among each

/-- A command of the table has a property if its children do. -/
theorem builtin_alone {P : ∀ α : Type, Eval α → Prop}
    (h : Lockstep setting.answer setting.answer fun α evaluation _ => P α evaluation)
    (each : ∀ node ∈ nodes, P String (node.render setting)) (name : String) :
    P String (TexMarkup.builtin setting name (Node.clauses setting nodes)) := by
  obtain ⟨plan, among, follows⟩ := builtin_exists_plan setting name nodes
  rw [Node.clauses_eq, Setting.access, follows]
  exact h.run_alone among each

end Lockstep

/-! ## Trees and documents -/

variable [AddressReader] [SpecialFunctions] {setting setting' : Setting}

/-- The evaluation that renders a document. -/
def Document.rendering (setting : Setting) (document : Document) : Eval String := do
  let paragraphs ← renderParagraphs setting document.paragraphs
  pure (joinParagraphs setting.options paragraphs)

theorem renderDocument_eq_ofEval (setting : Setting) (document : Document) :
    renderDocument setting document = Output.ofEval (document.rendering setting) := rfl

/-- The commands among the nodes keep two hosts in step if their children do. -/
def Setting.CommandsRelate (setting setting' : Setting) (R : ∀ α : Type, Eval α → Eval α → Prop)
    (nodes : List Node) : Prop :=
  ∀ name children, .command name children ∈ nodes →
    (∀ child ∈ children, R String (child.render setting) (child.render setting')) →
      R String (evaluate setting name (Node.clauses setting children))
        (evaluate setting' name (Node.clauses setting' children))

namespace DeepLockstep

/-- The two renderings of a tree are related if each command in it relates them. -/
theorem render (h : DeepLockstep answer answer' R)
    (maxDepth : setting.options.maxDepth = setting'.options.maxDepth) (node : Node)
    (commands : setting.CommandsRelate setting' R (Node.walk [node])) :
    R String (node.render setting) (node.render setting') := by
  match node with
  | .text content => exact h.pure (Html.escape content)
  | .space => exact h.pure " "
  | .command name children =>
    rw [Node.walk_command] at commands
    have each : ∀ child ∈ children, R String (child.render setting) (child.render setting') := by
      intro child mem
      refine render h maxDepth child fun name' children' below => ?_
      exact commands name' children' (List.mem_cons_of_mem _ (Node.mem_walk mem below))
    rw [Node.render, Node.render, maxDepth]
    exact h.nested _ name (commands name children List.mem_cons_self each)

theorem renderNodes (h : DeepLockstep answer answer' R)
    (maxDepth : setting.options.maxDepth = setting'.options.maxDepth) (nodes : List Node)
    (commands : setting.CommandsRelate setting' R (Node.walk nodes)) :
    R String (TexMarkup.renderNodes setting nodes) (TexMarkup.renderNodes setting' nodes) := by
  rw [TexMarkup.renderNodes, TexMarkup.renderNodes, Node.clauses_eq, Node.clauses_eq]
  refine h.renderAll fun node mem => h.render maxDepth node fun name children below => ?_
  exact commands name children (Node.mem_walk mem below)

theorem renderParagraphs (h : DeepLockstep answer answer' R)
    (maxDepth : setting.options.maxDepth = setting'.options.maxDepth) (paragraphs : List Paragraph)
    (commands : setting.CommandsRelate setting' R (Document.walk ⟨paragraphs⟩)) :
    R (List String) (TexMarkup.renderParagraphs setting paragraphs)
      (TexMarkup.renderParagraphs setting' paragraphs) := by
  induction paragraphs with
  | nil => exact h.pure []
  | cons paragraph paragraphs ih =>
    rw [Document.walk_cons] at commands
    have first := h.renderNodes maxDepth paragraph.nodes fun name children mem =>
      commands name children (List.mem_append_left _ mem)
    have later := ih fun name children mem => commands name children (List.mem_append_right _ mem)
    exact h.bind first fun html => h.bind later fun htmls => h.pure (html :: htmls)

/-- The two renderings of a document are related if each command in it relates them. -/
theorem rendering (h : DeepLockstep answer answer' R) (document : Document)
    (commands : setting.CommandsRelate setting' R document.walk)
    (options : setting.options = setting'.options) :
    R String (document.rendering setting) (document.rendering setting') := by
  have paragraphs := h.renderParagraphs (congrArg Options.maxDepth options) document.paragraphs
    commands
  rw [Document.rendering, Document.rendering, options]
  exact h.bind paragraphs fun htmls => h.pure _

end DeepLockstep

end TexMarkup
