import TexMarkup.Proofs.Document.Image
import TexMarkup.Proofs.Evaluation.Lockstep

/-!
# Trees further down

How deep a tree lies makes no difference to what it renders to and what is recorded, as long
as no command in it reaches the limit.

## Main definitions

* `Lowered`: an evaluation that does the same some levels further down.

## Main results

* `lowered_lockstep`: plans in front of children that are rendered in the same way.
* `Node.render_lowered`: trees that stay above the limit.
-/

namespace TexMarkup

variable {α β : Type} {depth more limit : Nat} {name : String}

/-- Begun at the depth, the first evaluation ends there, and the second one does the same so
many levels further down. -/
def Lowered (depth more : Nat) (evaluation evaluation' : Eval α) : Prop :=
  ∀ s, s.depth = depth → (evaluation s).2.depth = depth ∧
    evaluation' { s with depth := depth + more } =
      ((evaluation s).1, { (evaluation s).2 with depth := depth + more })

namespace Lowered

variable {evaluation evaluation' : Eval α} {command command' : Eval String}

theorem pure (x : α) : Lowered depth more (Pure.pure x : Eval α) (Pure.pure x) :=
  fun _ at_ => ⟨at_, rfl⟩

theorem bind {next next' : α → Eval β} (h : Lowered depth more evaluation evaluation')
    (h' : ∀ x, Lowered depth more (next x) (next' x)) :
    Lowered depth more (evaluation >>= next) (evaluation' >>= next') := by
  intro s at_
  obtain ⟨stays, same⟩ := h s at_
  obtain ⟨stays', same'⟩ := h' (evaluation s).1 (evaluation s).2 stays
  refine ⟨stays', ?_⟩
  show next' (evaluation' _).1 (evaluation' _).2 = _
  rw [same]
  exact same'

theorem fail (command : String) (e : CommandError) :
    Lowered depth more (TexMarkup.fail command e) (TexMarkup.fail command e) :=
  fun _ at_ => ⟨at_, rfl⟩

theorem nested (h : Lowered (depth + 1) more command command') (fits : depth + more < limit) :
    Lowered depth more (nested limit name command) (nested limit name command') := by
  intro s at_
  subst at_
  obtain ⟨stays, same⟩ := h { s with depth := s.depth + 1 } rfl
  have deeper : s.depth + 1 + more = s.depth + more + 1 := Nat.add_right_comm _ _ _
  rw [deeper] at same
  rw [TexMarkup.nested, TexMarkup.nested, if_neg (by omega), if_neg (Nat.not_le.mpr fits)]
  refine ⟨by show (command _).2.depth - 1 = _; rw [stays]; rfl, ?_⟩
  simp only [same]
  rfl

end Lowered

theorem lowered_lockstep (answer : Reference → Option String) (depth more : Nat) :
    Lockstep answer answer fun _ => Lowered depth more where
  pure := .pure
  bind h h' := h.bind h'
  fail := .fail
  ask _ _ at_ := ⟨at_, rfl⟩

/-- A tree renders to the same further down, if it does not reach the limit there. -/
theorem Node.render_lowered [AddressReader] [SpecialFunctions] {setting : Setting}
    (delegates : setting.Delegates) (node : Node) (depth : Nat)
    (fits : depth + more + node.depth ≤ setting.options.maxDepth) :
    Lowered depth more (node.render setting) (node.render setting) := by
  match node with
  | .text content => exact .pure (Html.escape content)
  | .space => exact .pure " "
  | .command name children =>
    rw [Node.depth] at fits
    have each : ∀ child ∈ children,
        Lowered (depth + 1) more (child.render setting) (child.render setting) := by
      intro child mem
      have below := Node.depth_le_depthList mem
      exact Node.render_lowered delegates child (depth + 1) (by omega)
    obtain ⟨plan, among, follows⟩ := delegates.exists_plan name children
    rw [Node.render, Node.clauses_eq, Setting.access, follows]
    exact ((lowered_lockstep setting.answer (depth + 1) more).run among each).nested (by omega)

end TexMarkup
