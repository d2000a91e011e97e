import TexMarkup.Proofs.Evaluation.History
import TexMarkup.Proofs.Evaluation.Selection

/-!
# Children as operands

A command that computes renders its children one after the other and goes by what they say.
What a child says depends on how deep the command lies and not on what has been rendered
before it, so the operands can be read off the children one by one, and the records are
those of rendering the children.

## Main definitions

* `Node.htmlAt`, `Node.verdictAt`: what a child renders to at a depth, and which truth value
  that is.
* `afterNodes`: the session after trees have been rendered.

## Main results

* `operands_run`: the numbers among the children.
* `truths_run`, `truths_run_of_noVerdict`: the truth values, up to the first child that is
  none.
-/

namespace TexMarkup

variable [AddressReader] [SpecialFunctions] {setting : Setting} {node : Node}
variable {nodes nodes' : List Node} {name : String} {s : Session}

/-! ## Children one after the other -/

/-- What a tree renders to at a depth. -/
def Node.htmlAt (setting : Setting) (depth : Nat) (node : Node) : String :=
  (node.render setting { depth }).1

/-- The truth value as which a tree is read at a depth, if it is one. -/
def Node.verdictAt (setting : Setting) (depth : Nat) (node : Node) : Option Bool :=
  match trim (node.htmlAt setting depth) with
  | "true" => some true
  | "false" => some false
  | _ => none

/-- The session after trees have been rendered from left to right. -/
def afterNodes (setting : Setting) (nodes : List Node) (s : Session) : Session :=
  (renderNodes setting nodes s).2

@[simp] theorem afterNodes_nil : afterNodes setting [] s = s := rfl

theorem afterNodes_cons :
    afterNodes setting (node :: nodes) s = afterNodes setting nodes (node.render setting s).2 := rfl

theorem afterNodes_append :
    afterNodes setting (nodes ++ nodes') s =
      afterNodes setting nodes' (afterNodes setting nodes s) := by
  induction nodes generalizing s with
  | nil => rfl
  | cons node nodes ih => rw [List.cons_append, afterNodes_cons, afterNodes_cons, ih]

/-- Rendering spaces records nothing. -/
theorem afterNodes_filter :
    afterNodes setting (nodes.filter fun node => !node.isSpace) s = afterNodes setting nodes s := by
  induction nodes generalizing s with
  | nil => rfl
  | cons node nodes ih =>
    cases node with
    | space => exact ih
    | text content => rw [List.filter_cons_of_pos rfl, afterNodes_cons, afterNodes_cons, ih]
    | command name children =>
      rw [List.filter_cons_of_pos rfl, afterNodes_cons, afterNodes_cons, ih]

/-- A space is no number. -/
theorem coerceNumber_space (setting : Setting) (depth : Nat) :
    coerceNumber (Node.space.htmlAt setting depth) = none := by
  show coerceNumber " " = none
  decide +kernel

section HistoryFree

variable (delegates : setting.Delegates)
include delegates

theorem Node.render_fst (node : Node) (s : Session) :
    (node.render setting s).1 = node.htmlAt setting s.depth := by
  rw [node.render_historyFree delegates s]
  rfl

theorem Node.render_eq (node : Node) (s : Session) :
    node.render setting s = (node.htmlAt setting s.depth, (node.render setting s).2) :=
  Prod.ext (node.render_fst delegates s) rfl

theorem Node.render_depth (node : Node) (s : Session) : (node.render setting s).2.depth = s.depth :=
  (node.render_historyFree delegates).depth_eq s

theorem verdict_eq_verdictAt (node : Node) (s : Session) :
    Clause.verdict ⟨node, node.render setting⟩ s = node.verdictAt setting s.depth := by
  rw [Node.verdictAt, ← node.render_fst delegates s]
  rfl

theorem afterNodes_eq (nodes : List Node) (s : Session) :
    afterNodes setting nodes s = s.add (afterNodes setting nodes { depth := s.depth }) :=
  congrArg Prod.snd (renderNodes_historyFree delegates nodes s)

theorem afterNodes_depth (nodes : List Node) (s : Session) :
    (afterNodes setting nodes s).depth = s.depth :=
  (renderNodes_historyFree delegates nodes).depth_eq s

/-! ## Numbers -/

/-- The operands are the numbers that the children say, and the records are those of
rendering all of them. -/
theorem operands_run (nodes : List Node) (s : Session) :
    operands (Node.clauses setting nodes) s =
      (nodes.filterMap fun node => coerceNumber (node.htmlAt setting s.depth),
        afterNodes setting nodes s) := by
  induction nodes generalizing s with
  | nil => rfl
  | cons node nodes ih =>
    rw [Node.clauses, operands]
    cases space : node.isSpace with
    | true =>
      -- A space is not rendered, and it would be no number.
      obtain rfl : node = .space := by
        cases node with
        | space => rfl
        | text content => cases space
        | command name children => cases space
      rw [if_pos rfl, List.filterMap_cons, coerceNumber_space]
      exact ih s
    | false =>
      have later := ih (node.render setting s).2
      rw [node.render_depth delegates] at later
      rw [if_neg Bool.false_ne_true, Eval.bind_of_eq (node.render_eq delegates s),
        Eval.bind_of_eq later, List.filterMap_cons, afterNodes_cons]
      cases coerceNumber (node.htmlAt setting s.depth) <;> rfl

/-! ## Truth values -/

theorem truths_run {bs : List Bool}
    (said : nodes.map (Node.verdictAt setting s.depth) = bs.map some) :
    (truths name (Node.clauses setting nodes)).run s = (.ok bs, afterNodes setting nodes s) := by
  induction nodes generalizing s bs with
  | nil =>
    obtain rfl : bs = [] := List.map_eq_nil_iff.mp said.symm
    rfl
  | cons node nodes ih =>
    cases bs with
    | nil => cases said
    | cons b bs =>
      obtain ⟨first, later⟩ := List.cons.inj said
      rw [Node.clauses, truths, truth_bind_run, verdict_eq_verdictAt delegates, first]
      have stays : (Clause.after ⟨node, node.render setting⟩ s).depth = s.depth :=
        node.render_depth delegates s
      rw [← stays] at later
      simp only
      rw [ExceptT.run_bind, Eval.bind_of_eq (ih later)]
      rfl

/-- No child is rendered after the first one that is no truth value. -/
theorem truths_run_of_noVerdict {before after : List Node} {bs : List Bool}
    (said : before.map (Node.verdictAt setting s.depth) = bs.map some)
    (noVerdict : node.verdictAt setting s.depth = none) :
    (truths name (Node.clauses setting (before ++ node :: after))).run s =
      (.error (.notBoolean name (node.htmlAt setting s.depth)),
        afterNodes setting (before ++ [node]) s) := by
  induction before generalizing s bs with
  | nil =>
    rw [List.nil_append, Node.clauses, truths, truth_bind_run, verdict_eq_verdictAt delegates,
      noVerdict]
    simp only [node.render_fst delegates]
    rfl
  | cons child before ih =>
    cases bs with
    | nil => cases said
    | cons b bs =>
      obtain ⟨first, later⟩ := List.cons.inj said
      have stays : (Clause.after ⟨child, child.render setting⟩ s).depth = s.depth :=
        child.render_depth delegates s
      rw [List.cons_append, Node.clauses, truths, truth_bind_run, verdict_eq_verdictAt delegates,
        first]
      rw [← stays] at later noVerdict ⊢
      simp only
      rw [ExceptT.run_bind, Eval.bind_of_eq (ih later noVerdict), List.cons_append, afterNodes_cons]
      rfl

end HistoryFree

end TexMarkup
