import Mathlib.Tactic.Choose
import TexMarkup.Evaluation
import TexMarkup.Proofs.Evaluation.Failure

/-!
# Plans

What a command does can be told apart from what its children render to: it renders
some of them, asks the host and records failures, and each step depends on the
texts and answers that it has got before. A plan is such a course of action. It does
not say what happens when a child is rendered, so one plan describes the same command
in front of children that are rendered in different ways.

## Main definitions

* `Plan`: a course of action, and `Plan.run`, its evaluation.
* `Access`: the rendering of children and the answers of the host.
* `Plan.InOrder`: children are rendered from left to right, each at most once.
* `Plan.Among`: children are rendered in any order, as often as wanted.
* `Plan.Gives`: no failure is recorded, and the questions and the result are known.
* `Planned`: an evaluation that follows a plan.
* `PlannedAttempt`: an attempt that follows a plan and fails only as a command of its name
  can.

## Main results

* `Plan.run_bind`, `Plan.InOrder.bind`, `Plan.Gives.bind`: one plan after another.
* `Planned.bind`, `PlannedAttempt.bind`, `PlannedAttempt.orMarker`: evaluations and attempts
  that follow plans.
-/

namespace TexMarkup

/-- What is done step by step until there is a result. -/
inductive Plan (α : Type) where
  /-- There is nothing left to do. -/
  | done (result : α)
  /-- Renders a child. -/
  | render (child : Node) (next : String → Plan α)
  /-- Puts a question to the host. -/
  | ask (r : Reference) (next : Option String → Plan α)
  /-- Records a failure. -/
  | fail (command : String) (e : CommandError) (next : Plan α)

/-- What a plan works with. -/
structure Access where
  /-- The answers of the host. -/
  answer : Reference → Option String
  /-- Renders a child. -/
  render : Node → Eval String

/-- The children of a command, with the way to render them. -/
def Access.clauses (access : Access) (nodes : List Node) : List Clause :=
  nodes.map fun node => ⟨node, access.render node⟩

namespace Plan

variable {α β : Type} {access : Access} {nodes nodes' : List Node}
variable {questions questions' : List Reference} {P : α → Prop} {Q : β → Prop}

/-- Does what the plan says. -/
def run (access : Access) : Plan α → Eval α
  | done x => pure x
  | render child next => do
    let html ← access.render child
    (next html).run access
  | ask r next => do
    recordLookup r
    (next (access.answer r)).run access
  | fail command e next => do
    let _ ← TexMarkup.fail command e
    next.run access

/-- A plan that goes on after the result. -/
def bind (next : α → Plan β) : Plan α → Plan β
  | done x => next x
  | render child rest => render child fun html => (rest html).bind next
  | ask r rest => ask r fun answer => (rest answer).bind next
  | fail command e rest => fail command e (rest.bind next)

/-- Plans that follow each other are run one after the other. -/
theorem run_bind (plan : Plan α) (next : α → Plan β) :
    (plan.bind next).run access = plan.run access >>= fun x => (next x).run access := by
  induction plan with
  | done x => rfl
  | render child rest ih => simp only [bind, run, ih, bind_assoc]
  | ask r rest ih => simp only [bind, run, ih, bind_assoc]
  | fail command e rest ih => simp only [bind, run, ih, bind_assoc]

/-- Only the given children are rendered, from left to right and none of them
twice. -/
def InOrder : Plan α → List Node → Prop
  | done _, _ => True
  | render child next, nodes =>
    ∃ rest, (child :: rest).Sublist nodes ∧ ∀ html, (next html).InOrder rest
  | ask _ next, nodes => ∀ answer, (next answer).InOrder nodes
  | fail _ _ next, nodes => next.InOrder nodes

/-- Nodes that are not rendered may be added anywhere. -/
theorem InOrder.mono {plan : Plan α} (h : plan.InOrder nodes) (more : nodes.Sublist nodes') :
    plan.InOrder nodes' := by
  induction plan generalizing nodes nodes' with
  | done x => trivial
  | render child next ih =>
    obtain ⟨rest, split, later⟩ := h
    exact ⟨rest, split.trans more, later⟩
  | ask r next ih => exact fun answer => ih answer (h answer) more
  | fail command e next ih => exact ih h more

/-- Two plans in order are one, over the nodes of both. -/
theorem InOrder.bind {plan : Plan α} {next : α → Plan β} (h : plan.InOrder nodes)
    (h' : ∀ x, (next x).InOrder nodes') : (plan.bind next).InOrder (nodes ++ nodes') := by
  induction plan generalizing nodes with
  | done x => exact (h' x).mono (List.sublist_append_right _ _)
  | render child rest ih =>
    obtain ⟨later, split, inLater⟩ := h
    exact ⟨later ++ nodes', split.append (List.Sublist.refl _), fun html => ih html (inLater html)⟩
  | ask r rest ih => exact fun answer => ih answer (h answer)
  | fail command e rest ih => exact ih h

/-- Only the given children are rendered. -/
def Among : Plan α → List Node → Prop
  | done _, _ => True
  | render child next, nodes => child ∈ nodes ∧ ∀ html, (next html).Among nodes
  | ask _ next, nodes => ∀ answer, (next answer).Among nodes
  | fail _ _ next, nodes => next.Among nodes

theorem Among.mono {plan : Plan α} (h : plan.Among nodes) (more : nodes ⊆ nodes') :
    plan.Among nodes' := by
  induction plan with
  | done x => trivial
  | render child next ih => exact ⟨more h.1, fun html => ih html (h.2 html)⟩
  | ask r next ih => exact fun answer => ih answer (h answer)
  | fail command e next ih => exact ih h

theorem Among.bind {plan : Plan α} {next : α → Plan β} (h : plan.Among nodes)
    (h' : ∀ x, (next x).Among nodes) : (plan.bind next).Among nodes := by
  induction plan with
  | done x => exact h' x
  | render child rest ih => exact ⟨h.1, fun html => ih html (h.2 html)⟩
  | ask r rest ih => exact fun answer => ih answer (h answer)
  | fail command e rest ih => exact ih h

/-- A plan in order only renders the nodes that it is about. -/
theorem InOrder.among {plan : Plan α} (h : plan.InOrder nodes) : plan.Among nodes := by
  induction plan generalizing nodes with
  | done x => trivial
  | render child next ih =>
    obtain ⟨rest, split, later⟩ := h
    have within : rest ⊆ nodes := ((List.sublist_cons_self _ _).trans split).subset
    exact ⟨split.subset List.mem_cons_self, fun html => (ih html (later html)).mono within⟩
  | ask r next ih => exact fun answer => ih answer (h answer)
  | fail command e next ih => exact ih h

/-- The result has the property, no failure is recorded, and only the given questions
are asked, from left to right and none of them twice. -/
def Gives : Plan α → (α → Prop) → List Reference → Prop
  | done x, P, _ => P x
  | render _ next, P, questions => ∀ html, (next html).Gives P questions
  | ask r next, P, questions =>
    ∃ rest, (r :: rest).Sublist questions ∧ ∀ answer, (next answer).Gives P rest
  | fail _ _ _, _, _ => False

theorem Gives.mono {plan : Plan α} {Q : α → Prop} (h : plan.Gives P questions)
    (weaker : ∀ x, P x → Q x) (more : questions.Sublist questions') : plan.Gives Q questions' := by
  induction plan generalizing questions questions' with
  | done x => exact weaker x h
  | render child next ih => exact fun html => ih html (h html) more
  | ask r next ih =>
    obtain ⟨rest, split, later⟩ := h
    exact ⟨rest, split.trans more, fun answer => ih answer (later answer) (List.Sublist.refl _)⟩
  | fail command e next ih => exact h

/-- The questions of two plans add up. -/
theorem Gives.bind {plan : Plan α} {next : α → Plan β} (h : plan.Gives P questions)
    (h' : ∀ x, (next x).Gives (fun y => P x → Q y) questions') :
    (plan.bind next).Gives Q (questions ++ questions') := by
  -- The result of the first plan is known where it ends, and only there.
  induction plan generalizing questions with
  | done x => exact (h' x).mono (fun _ implied => implied h) (List.sublist_append_right _ _)
  | render child rest ih => exact fun html => ih html (h html)
  | ask r rest ih =>
    obtain ⟨later, split, gives⟩ := h
    exact ⟨later ++ questions', split.append (List.Sublist.refl _),
      fun answer => ih answer (gives answer)⟩
  | fail command e rest ih => exact h.elim

/-- The result of a command that may have failed, or the marker of its failure. -/
def marked (command : String) : Except CommandError String → Plan String
  | .ok html => done html
  | .error e => fail command e (done e.marker)

/-- A failure is marked without rendering anything more. -/
theorem marked_inOrder (command : String) (result : Except CommandError String) :
    (marked command result).InOrder nodes := by
  cases result with
  | ok html => exact trivial
  | error e => exact trivial

end Plan

/-! ## Evaluations that follow a plan -/

/-- Whatever the children render to and whatever the host answers, the evaluation does
what one and the same plan says. The plan renders some of the given children and asks some
of the given questions, both in order, and its result has the property. -/
def Planned {α : Type} (nodes : List Node) (evaluation : Access → Eval α)
    (questions : List Reference := []) (P : α → Prop := fun _ => True) : Prop :=
  ∃ plan : Plan α, plan.InOrder nodes ∧ plan.Gives P questions ∧
    ∀ access, evaluation access = plan.run access

namespace Planned

variable {α β : Type} {nodes nodes' : List Node} {questions questions' : List Reference}
variable {P : α → Prop} {Q : β → Prop} {evaluation evaluation' : Access → Eval α}

theorem congr (h : Planned nodes evaluation questions P)
    (same : ∀ access, evaluation' access = evaluation access) :
    Planned nodes evaluation' questions P := by
  obtain ⟨plan, inOrder, gives, follows⟩ := h
  exact ⟨plan, inOrder, gives, fun access => (same access).trans (follows access)⟩

theorem mono (h : Planned nodes evaluation questions P) (more : nodes.Sublist nodes') :
    Planned nodes' evaluation questions P := by
  obtain ⟨plan, inOrder, gives, follows⟩ := h
  exact ⟨plan, inOrder.mono more, gives, follows⟩

/-- Less may be said of the result. -/
theorem weaken {P' : α → Prop} (h : Planned nodes evaluation questions P)
    (weaker : ∀ x, P x → P' x) : Planned nodes evaluation questions P' := by
  obtain ⟨plan, inOrder, gives, follows⟩ := h
  exact ⟨plan, inOrder, gives.mono weaker (List.Sublist.refl _), follows⟩

theorem pure {x : α} (h : P x) : Planned nodes (fun _ => Pure.pure x) questions P :=
  ⟨.done x, trivial, h, fun _ => rfl⟩

theorem render (node : Node) : Planned [node] fun access => access.render node :=
  ⟨.render node .done, ⟨[], List.Sublist.refl _, fun _ => trivial⟩, fun _ => trivial, fun _ => rfl⟩

/-- A question to the host, and its answer. -/
theorem ask (r : Reference) :
    Planned nodes (fun access => recordLookup r >>= fun _ => Pure.pure (access.answer r)) [r] :=
  ⟨.ask r .done, fun _ => trivial, ⟨[], List.Sublist.refl _, fun _ => trivial⟩, fun _ => rfl⟩

/-- One evaluation after another, with children further to the right. What is known of the
first result may be used for the second one. -/
theorem bind_of_gives {next : α → Access → Eval β} (h : Planned nodes evaluation questions P)
    (h' : ∀ x, Planned nodes' (next x) questions' fun y => P x → Q y) :
    Planned (nodes ++ nodes') (fun access => evaluation access >>= fun x => next x access)
      (questions ++ questions') Q := by
  obtain ⟨plan, inOrder, gives, follows⟩ := h
  choose plans inOrder' gives' follows' using h'
  refine ⟨plan.bind plans, inOrder.bind inOrder', gives.bind gives', fun access => ?_⟩
  have same : (fun x => next x access) = fun x => (plans x).run access :=
    funext fun x => follows' x access
  rw [Plan.run_bind, ← follows access, ← same]

/-- One evaluation after another, with children further to the right. -/
theorem bind {next : α → Access → Eval β} (h : Planned nodes evaluation questions P)
    (h' : ∀ x, Planned nodes' (next x) questions') :
    Planned (nodes ++ nodes') (fun access => evaluation access >>= fun x => next x access)
      (questions ++ questions') :=
  h.bind_of_gives fun x => (h' x).weaken fun _ _ _ => trivial

/-- A result that is known as soon as that of another evaluation is. -/
theorem map (f : α → β) (h : Planned nodes evaluation) :
    Planned nodes fun access => evaluation access >>= fun x => Pure.pure (f x) := by
  have known (x : α) : Planned [] (fun _ => Pure.pure (f x)) := Planned.pure trivial
  have followed := h.bind known
  rwa [List.append_nil] at followed

end Planned

/-- The same for attempts, which fail only in ways in which a command of this name can. -/
def PlannedAttempt {α : Type} (name : String) (nodes : List Node) (attempt : Access → Attempt α)
    (questions : List Reference := []) : Prop :=
  Planned nodes (fun access => (attempt access).run) questions (FailsIn name)

namespace PlannedAttempt

variable {α β : Type} {name : String} {nodes nodes' : List Node}
variable {questions questions' : List Reference} {attempt attempt' : Access → Attempt α}

theorem congr (h : PlannedAttempt name nodes attempt questions)
    (same : ∀ access, attempt' access = attempt access) :
    PlannedAttempt name nodes attempt' questions :=
  Planned.congr h fun access => congrArg ExceptT.run (same access)

theorem mono (h : PlannedAttempt name nodes attempt questions) (more : nodes.Sublist nodes') :
    PlannedAttempt name nodes' attempt questions :=
  Planned.mono h more

/-- A result that is known already. -/
theorem ofExcept {result : Except CommandError α} (h : FailsIn name result) :
    PlannedAttempt name nodes (fun _ => Attempt.ofExcept result) questions :=
  Planned.pure h

theorem pure (x : α) : PlannedAttempt name nodes (fun _ => Pure.pure x) questions :=
  ofExcept (FailsIn.ok x)

/-- An error of the command is a plan that fails at once. -/
theorem throw {e : CommandError} (h : e.ArisesIn name) :
    PlannedAttempt name nodes (fun _ => (MonadExcept.throw e : Attempt α)) questions :=
  ofExcept (FailsIn.error h)

/-- An evaluation that cannot fail is planned as an attempt too. -/
theorem lift {evaluation : Access → Eval α} (h : Planned nodes evaluation questions) :
    PlannedAttempt name nodes (fun access => liftM (evaluation access)) questions := by
  have succeeds (x : α) : Planned [] (fun _ => Pure.pure (Except.ok (ε := CommandError) x)) []
      fun result => True → FailsIn name result :=
    Planned.pure fun _ => FailsIn.ok x
  have followed := h.bind_of_gives succeeds
  rwa [List.append_nil, List.append_nil] at followed

/-- Attempts that follow each other are planned one after the other, with the questions of both.
-/
theorem bind {next : α → Access → Attempt β} (h : PlannedAttempt name nodes attempt questions)
    (h' : ∀ x, PlannedAttempt name nodes' (next x) questions') :
    PlannedAttempt name (nodes ++ nodes') (fun access => attempt access >>= fun x => next x access)
      (questions ++ questions') := by
  -- After an error nothing more is done.
  let continued (result : Except CommandError α) (access : Access) : Eval (Except CommandError β) :=
    match result with
    | .ok x => (next x access).run
    | .error e => Pure.pure (.error e)
  have followed : Planned (nodes ++ nodes')
      (fun access => (attempt access).run >>= fun result => continued result access)
      (questions ++ questions') (FailsIn name) := by
    refine Planned.bind_of_gives h fun result => ?_
    cases result with
    | ok x => exact (h' x).weaken fun _ fails _ => fails
    | error e => exact Planned.pure fun fails => FailsIn.error (fails e rfl)
  refine followed.congr fun access => ?_
  show (attempt access >>= fun x => next x access).run = _
  rw [ExceptT.run_bind]
  refine congrArg ((attempt access).run >>= ·) (funext fun result => ?_)
  cases result <;> rfl

/-- One attempt after another that renders no children and asks nothing. -/
theorem bind_nil {next : α → Access → Attempt β} (h : PlannedAttempt name nodes attempt questions)
    (h' : ∀ x, PlannedAttempt name [] (next x)) :
    PlannedAttempt name nodes (fun access => attempt access >>= fun x => next x access)
      questions := by
  have followed := h.bind h'
  rwa [List.append_nil, List.append_nil] at followed

theorem map (f : α → β) (h : PlannedAttempt name nodes attempt questions) :
    PlannedAttempt name nodes (fun access => attempt access >>= fun x => Pure.pure (f x))
      questions :=
  h.bind_nil fun x => .pure (f x)

/-- The plan of an attempt, with the marker of its failure at the end. -/
theorem orMarker {attempt : Access → Attempt String}
    (h : PlannedAttempt name nodes attempt questions) :
    ∃ plan : Plan (Except CommandError String), plan.InOrder nodes ∧
      plan.Gives (FailsIn name) questions ∧
      ∀ access, (attempt access).orMarker name = (plan.bind (Plan.marked name)).run access := by
  obtain ⟨plan, inOrder, gives, follows⟩ := h
  refine ⟨plan, inOrder, gives, fun access => ?_⟩
  rw [Plan.run_bind, ← follows access]
  refine congrArg ((attempt access).run >>= ·) (funext fun result => ?_)
  cases result <;> rfl

end PlannedAttempt

end TexMarkup
