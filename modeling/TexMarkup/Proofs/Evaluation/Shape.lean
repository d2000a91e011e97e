import TexMarkup.Evaluation

/-!
# What commands see of their children as written

A command renders its children, but it also sees how they were written. Of that the
commands of the table use two things only, whether a child is a space and which text it is.
An image is the exception, since its description is the plain text below its children. So
children can be rewritten inside without a command noticing, as long as they render to the
same and, for images, as long as their plain text stays the same.

## Main definitions

* `KeepsShape`: rewritings that leave spaces and texts as they are.
* `Clause.rewrite`: a clause with its child rewritten and rendered as before.

## Main results

* `renderControl_rewrite`, `renderLink_rewrite`, `renderMailto_rewrite`,
  `entityReference_rewrite`, `userReference_rewrite`: families of commands.
* `Handler.run_rewrite`, `builtin_rewrite`: all commands of the table but images.
* `builtin_rewrite_of_textContent`: all commands of the table.
-/

namespace TexMarkup

/-- The rewriting makes no spaces or texts and takes none away or changes them. -/
def KeepsShape (f : Node → Node) : Prop :=
  ∀ node, (f node).isSpace = node.isSpace ∧ (f node).asText? = node.asText?

/-- The clause with its child rewritten. It is rendered as before. -/
def Clause.rewrite (f : Node → Node) (clause : Clause) : Clause :=
  ⟨f clause.node, clause.render⟩

@[simp] theorem Clause.rewrite_render (f : Node → Node) (clause : Clause) :
    (clause.rewrite f).render = clause.render := rfl

variable {f : Node → Node} {name : String}

/-! ## Commands that only render -/

theorem renderAll_rewrite (clauses : List Clause) :
    renderAll (clauses.map (Clause.rewrite f)) = renderAll clauses := by
  induction clauses with
  | nil => rfl
  | cons clause clauses ih => simp only [List.map_cons, renderAll, Clause.rewrite_render, ih]

theorem renderOption_rewrite (clause : Option Clause) :
    renderOption (clause.map (Clause.rewrite f)) = renderOption clause := by
  cases clause <;> rfl

theorem renderSpaced_rewrite (clauses : List Clause) :
    renderSpaced (clauses.map (Clause.rewrite f)) = renderSpaced clauses := by
  induction clauses with
  | nil => rfl
  | cons clause clauses ih =>
    cases clauses with
    | nil => rfl
    | cons clause' clauses =>
      show (do
        let html ← clause.render
        let rest ← renderSpaced ((clause' :: clauses).map (Clause.rewrite f))
        pure (html ++ " " ++ rest)) = _
      rw [ih]
      rfl

theorem truths_rewrite (name : String) (clauses : List Clause) :
    truths name (clauses.map (Clause.rewrite f)) = truths name clauses := by
  induction clauses with
  | nil => rfl
  | cons clause clauses ih =>
    rw [List.map_cons, truths, truths, ih]
    rfl

theorem renderCond_rewrite (name : String) (clauses : List Clause) :
    renderCond name (clauses.map (Clause.rewrite f)) = renderCond name clauses := by
  fun_induction renderCond name clauses with
  | case1 => rfl
  | case2 test => rfl
  | case3 test body rest ih =>
    rw [List.map_cons, List.map_cons, renderCond, ih]
    rfl

theorem renderCase_rewrite (value : String) (clauses : List Clause) :
    renderCase value (clauses.map (Clause.rewrite f)) = renderCase value clauses := by
  fun_induction renderCase value clauses with
  | case1 => rfl
  | case2 default => rfl
  | case3 key body rest ih =>
    rw [List.map_cons, List.map_cons, renderCase, ih]
    rfl

theorem renderBody_rewrite (clauses : List Clause) :
    renderBody (clauses.map (Clause.rewrite f)) = renderBody clauses := by
  match clauses with
  | [] | [_] => rfl
  | clause :: clause' :: clauses =>
    show (do
      let html ← renderSpaced ((clause :: clause' :: clauses).map (Clause.rewrite f))
      pure (Html.wrapTag "span" html)) = _
    rw [renderSpaced_rewrite]
    rfl

/-! ## Commands that look at their children -/

theorem significant_rewrite (h : KeepsShape f) (clauses : List Clause) :
    significant (clauses.map (Clause.rewrite f)) =
      (significant clauses).map (Clause.rewrite f) := by
  have same : (fun clause : Clause => !clause.node.isSpace) ∘ Clause.rewrite f =
      fun clause => !clause.node.isSpace :=
    funext fun clause => congrArg (!·) (h clause.node).1
  rw [significant, List.filter_map, same, significant]

theorem firstText?_rewrite (h : KeepsShape f) (clauses : List Clause) :
    firstText? (clauses.map (Clause.rewrite f)) = firstText? clauses := by
  have same : (fun clause : Clause => clause.node.asText?) ∘ Clause.rewrite f =
      fun clause => clause.node.asText? :=
    funext fun clause => (h clause.node).2
  rw [firstText?, List.findSome?_map, same, firstText?]

theorem operands_rewrite (h : KeepsShape f) (clauses : List Clause) :
    operands (clauses.map (Clause.rewrite f)) = operands clauses := by
  induction clauses with
  | nil => rfl
  | cons clause clauses ih =>
    rw [List.map_cons, operands, operands, ih, show (clause.rewrite f).node.isSpace = _ from
      (h clause.node).1]
    rfl

theorem renderLogic_rewrite (h : KeepsShape f) (op : Logic) (name : String)
    (clauses : List Clause) :
    renderLogic op name (clauses.map (Clause.rewrite f)) = renderLogic op name clauses := by
  rw [renderLogic, significant_rewrite h, truths_rewrite, renderLogic]

theorem renderControl_rewrite (h : KeepsShape f) (form : ControlForm) (name : String)
    (clauses : List Clause) :
    renderControl form name (clauses.map (Clause.rewrite f)) = renderControl form name clauses := by
  unfold renderControl
  rw [significant_rewrite h]
  generalize significant clauses = clauses
  match form, clauses with
  | .comment, _ => rfl
  | .first, clauses => simp only [List.head?_map, renderOption_rewrite]
  | .last, clauses => simp only [List.getLast?_map, renderOption_rewrite]
  | .cond, clauses => simp only [renderCond_rewrite]
  | .branch, [] | .unless, [] | .when, [] | .case, [] => rfl
  | .branch, test :: clauses | .unless, test :: clauses =>
    simp only [List.map_cons, List.getElem?_map, renderOption_rewrite]
    rfl
  | .when, test :: clauses =>
    simp only [List.map_cons, renderBody_rewrite]
    rfl
  | .case, subject :: clauses =>
    simp only [List.map_cons, renderCase_rewrite]
    rfl

/-! ## Links and references -/

theorem argumentText_rewrite (h : KeepsShape f) (clause : Clause) :
    argumentText (clause.rewrite f) = argumentText clause := by
  have byText (clause : Clause) :
      argumentText clause = (clause.node.asText?.map pure).getD clause.render := by
    rw [argumentText]
    cases clause.node <;> rfl
  rw [byText, byText, show (clause.rewrite f).node.asText? = _ from (h clause.node).2]
  rfl

theorem dropWhile_rewrite (h : KeepsShape f) (clauses : List Clause) :
    (clauses.map (Clause.rewrite f)).dropWhile (fun clause => clause.node.isSpace) =
      (clauses.dropWhile fun clause => clause.node.isSpace).map (Clause.rewrite f) := by
  have same : (fun clause : Clause => clause.node.isSpace) ∘ Clause.rewrite f =
      fun clause => clause.node.isSpace :=
    funext fun clause => (h clause.node).1
  rw [List.dropWhile_map, same]

theorem splitFirstArgument_rewrite (h : KeepsShape f) (clauses : List Clause) :
    splitFirstArgument (clauses.map (Clause.rewrite f)) =
      (splitFirstArgument clauses).map fun (first, rest) =>
        (first.rewrite f, rest.map (Clause.rewrite f)) := by
  rw [splitFirstArgument, dropWhile_rewrite h, splitFirstArgument]
  cases clauses.dropWhile fun clause => clause.node.isSpace with
  | nil => rfl
  | cons first rest =>
    rw [List.map_cons]
    simp only [dropWhile_rewrite h, Option.map_some]

theorem renderLink_rewrite [AddressReader] (h : KeepsShape f) (name : String)
    (clauses : List Clause) :
    renderLink name (clauses.map (Clause.rewrite f)) = renderLink name clauses := by
  rw [renderLink, requiredUri, splitFirstArgument_rewrite h, renderLink, requiredUri]
  cases splitFirstArgument clauses with
  | none => rfl
  | some split =>
    obtain ⟨first, rest⟩ := split
    simp only [Option.map_some, argumentText_rewrite h, bind_assoc, pure_bind, renderAll_rewrite]

theorem renderMailto_rewrite (h : KeepsShape f) (name : String) (clauses : List Clause) :
    renderMailto name (clauses.map (Clause.rewrite f)) = renderMailto name clauses := by
  rw [renderMailto, splitFirstArgument_rewrite h, renderMailto]
  cases splitFirstArgument clauses with
  | none => rfl
  | some split => simp only [Option.map_some, argumentText_rewrite h]

theorem entityReference_rewrite (h : KeepsShape f) (setting : Setting) (kind : EntityKind)
    (clauses : List Clause) :
    entityReference setting kind (clauses.map (Clause.rewrite f)) =
      entityReference setting kind clauses := by
  rw [entityReference, firstText?_rewrite h, entityReference]

theorem userReference_rewrite (h : KeepsShape f) (setting : Setting) (clauses : List Clause) :
    userReference setting (clauses.map (Clause.rewrite f)) = userReference setting clauses := by
  rw [userReference, firstText?_rewrite h, userReference]

/-! ## The table -/

/-- A command of the table that is no image sees nothing of how its children were written
but spaces and texts. -/
theorem Handler.run_rewrite [AddressReader] [SpecialFunctions] (h : KeepsShape f)
    {handler : Handler} (noImage : handler ≠ .image) (setting : Setting) (name : String)
    (clauses : List Clause) :
    handler.run setting name (clauses.map (Clause.rewrite f)) =
      handler.run setting name clauses := by
  cases handler with
  | wrap tag => simp only [run, renderAll_rewrite]
  | wrapWith tag attributes => simp only [run, renderAll_rewrite]
  | literal text => rfl
  | nbsp => simp only [run, renderNbsp, operands_rewrite h]
  | constant value => rfl
  | arithmetic op => simp only [run, calculate, operands_rewrite h]
  | function f => simp only [run, calculate, operands_rewrite h]
  | percent op => simp only [run, calculate, operands_rewrite h]
  | compare op => simp only [run, compareOperands, operands_rewrite h]
  | logic op => exact renderLogic_rewrite h op name clauses
  | control form => exact renderControl_rewrite h form name clauses
  | link => exact renderLink_rewrite h name clauses
  | image => exact absurd rfl noImage
  | mailto => exact renderMailto_rewrite h name clauses
  | entity kind => exact entityReference_rewrite h setting kind clauses
  | user => exact userReference_rewrite h setting clauses

theorem builtin_rewrite [AddressReader] [SpecialFunctions] (h : KeepsShape f)
    (noImage : lookupCommand name ≠ some .image)
    (setting : Setting) (clauses : List Clause) :
    builtin setting name (clauses.map (Clause.rewrite f)) = builtin setting name clauses := by
  unfold builtin
  split
  · rfl
  · rename_i handler found
    have noImage' : handler ≠ .image := fun isImage => noImage (isImage ▸ found)
    rw [Handler.run_rewrite h noImage']

theorem Node.textContentList_map (kept : ∀ node, (f node).textContent = node.textContent)
    (nodes : List Node) : Node.textContentList (nodes.map f) = Node.textContentList nodes := by
  induction nodes with
  | nil => rfl
  | cons node nodes ih => rw [List.map_cons, textContentList, textContentList, kept, ih]

theorem renderImage_rewrite [AddressReader] (h : KeepsShape f)
    (kept : ∀ node, (f node).textContent = node.textContent) (name : String)
    (clauses : List Clause) :
    renderImage name (clauses.map (Clause.rewrite f)) = renderImage name clauses := by
  rw [renderImage, requiredUri, splitFirstArgument_rewrite h, renderImage, requiredUri]
  cases splitFirstArgument clauses with
  | none => rfl
  | some split =>
    obtain ⟨first, rest⟩ := split
    have nodes : (rest.map (Clause.rewrite f)).map Clause.node = (rest.map Clause.node).map f := by
      rw [List.map_map, List.map_map]
      rfl
    simp only [Option.map_some, argumentText_rewrite h, bind_assoc, pure_bind, nodes,
      Node.textContentList_map kept]

/-- A command of the table sees nothing of how its children were written but spaces, texts and
the plain text below them. -/
theorem builtin_rewrite_of_textContent [AddressReader] [SpecialFunctions] (h : KeepsShape f)
    (kept : ∀ node, (f node).textContent = node.textContent) (setting : Setting) (name : String)
    (clauses : List Clause) :
    builtin setting name (clauses.map (Clause.rewrite f)) = builtin setting name clauses := by
  by_cases isImage : lookupCommand name = some .image
  · have image : (Handler.image).run setting name (clauses.map (Clause.rewrite f)) =
        (Handler.image).run setting name clauses := renderImage_rewrite h kept name clauses
    simp only [builtin, isImage, image]
  · exact builtin_rewrite h isImage setting clauses

end TexMarkup
