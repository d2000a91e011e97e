import TexMarkup.Proofs.Evaluation.Plan

/-!
# Commands follow plans

The commands of the table render their children from left to right, none of them
twice, and go by nothing else than the texts and answers that they have got.

## Main results

* `planned_operands`, `planned_renderLogic`, `planned_renderControl`,
  `planned_renderLink`: the families of commands.
* `Handler.planned_run`, `planned_builtin`: all commands of the table.
-/

namespace TexMarkup

/-- The setting of a command that works with the given access: with a host that gives
the answers, or without one. -/
def Access.setting (access : Access) (hosted : Bool) (options : Options) : Setting where
  commander :=
    if hosted then .actionable
      ⟨fun kind id => access.answer (.entity kind id), fun name => access.answer (.user name)⟩
    else .standard
  options := options

variable {node : Node} {nodes : List Node} {name : String} {options : Options}

/-! ## Clauses -/

/-- Which children are spaces can be told without rendering them. -/
theorem significant_clauses (access : Access) (nodes : List Node) :
    significant (access.clauses nodes) =
      access.clauses (nodes.filter fun node => !node.isSpace) := by
  simp only [significant, Access.clauses, List.filter_map, Function.comp_def]

/-- Nor has a child to be rendered for its text. -/
theorem firstText?_clauses (access : Access) (nodes : List Node) :
    firstText? (access.clauses nodes) = nodes.findSome? Node.asText? := by
  simp only [firstText?, Access.clauses, List.findSome?_map, Function.comp_def]

/-- All children are rendered, in their order. -/
theorem planned_renderAll (nodes : List Node) :
    Planned nodes fun access => renderAll (access.clauses nodes) := by
  induction nodes with
  | nil => exact .pure trivial
  | cons node nodes ih => exact (Planned.render node).bind fun html => ih.map (html ++ ·)

theorem planned_renderOption (node : Option Node) :
    Planned node.toList fun access =>
      renderOption (node.map fun node => ⟨node, access.render node⟩) := by
  cases node with
  | none => exact .pure trivial
  | some node => exact .render node

theorem planned_renderSpaced (nodes : List Node) :
    Planned nodes fun access => renderSpaced (access.clauses nodes) := by
  induction nodes with
  | nil => exact .pure trivial
  | cons node nodes ih =>
    cases nodes with
    | nil => exact .render node
    | cons node' nodes => exact (Planned.render node).bind fun html => ih.map (html ++ " " ++ ·)

/-! ## Numbers and truth values -/

/-- Numeric commands render all their children, whatever comes out. -/
theorem planned_operands (nodes : List Node) :
    Planned nodes fun access => operands (access.clauses nodes) := by
  induction nodes with
  | nil => exact .pure trivial
  | cons node nodes ih =>
    cases space : node.isSpace with
    | true =>
      refine (ih.mono (List.sublist_cons_self _ _)).congr fun access => ?_
      simp only [Access.clauses, List.map_cons, operands, space, if_true]
    | false =>
      have rendered := (Planned.render node).bind fun html =>
        ih.map fun xs => (coerceNumber html).toList ++ xs
      refine rendered.congr fun access => ?_
      simp only [Access.clauses, List.map_cons, operands, space, Bool.false_eq_true, if_false]
      refine congrArg (access.render node >>= ·) (funext fun html => ?_)
      cases coerceNumber html <;> rfl

/-- They fail, if they do, after all of them. -/
theorem planned_calculate {calculation : List Double → Calculation}
    (fails : ∀ xs, FailsIn name (calculation xs)) (nodes : List Node) :
    PlannedAttempt name nodes fun access => calculate calculation (access.clauses nodes) := by
  refine (PlannedAttempt.lift (planned_operands nodes)).bind_nil fun xs => ?_
  exact (PlannedAttempt.ofExcept (fails xs)).bind_nil fun x => .ofExcept (failsIn_formatNumber x)

theorem planned_truth (name : String) (node : Node) :
    PlannedAttempt name [node] fun access => truth name ⟨node, access.render node⟩ := by
  refine (PlannedAttempt.lift (.render node)).bind_nil fun html => ?_
  split
  · exact .pure true
  · exact .pure false
  · exact .ofExcept (.named rfl)

/-- Tests are rendered in their order up to the first one that is no boolean. -/
theorem planned_truths (name : String) (nodes : List Node) :
    PlannedAttempt name nodes fun access => truths name (access.clauses nodes) := by
  induction nodes with
  | nil => exact .pure []
  | cons node nodes ih => exact (planned_truth name node).bind fun b => ih.map (b :: ·)

theorem planned_renderLogic (op : Logic) (name : String) (nodes : List Node) :
    PlannedAttempt name nodes fun access => renderLogic op name (access.clauses nodes) := by
  have followed := (planned_truths name (nodes.filter fun node => !node.isSpace)).bind_nil
    fun bs => (PlannedAttempt.ofExcept (op.failsIn_apply bs)).map truthText
  refine (followed.mono List.filter_sublist).congr fun access => ?_
  rw [renderLogic, significant_clauses]

/-! ## Choices -/

/-- Pairs of tests and branches are tried from the first one on. -/
theorem planned_renderCond (name : String) (nodes : List Node) :
    PlannedAttempt name nodes fun access => renderCond name (access.clauses nodes) := by
  match nodes with
  | [] => exact .pure ""
  | [test] => exact (planned_truth name test).map fun _ => ""
  | test :: body :: rest =>
    have chosen (isTrue : Bool) : PlannedAttempt name (body :: rest) fun access =>
        if isTrue then liftM (access.render body) else renderCond name (access.clauses rest) := by
      cases isTrue with
      | true =>
        have first : [body].Sublist (body :: rest) := List.Sublist.cons_cons _ (List.nil_sublist _)
        exact (PlannedAttempt.lift (.render body)).mono first
      | false => exact (planned_renderCond name rest).mono (List.sublist_cons_self _ _)
    exact (planned_truth name test).bind chosen

theorem planned_renderCase (value : String) (nodes : List Node) :
    Planned nodes fun access => renderCase value (access.clauses nodes) := by
  match nodes with
  | [] => exact .pure trivial
  | [default] => exact .render default
  | key :: body :: rest =>
    have chosen (html : String) : Planned (body :: rest) fun access =>
        if html = value then access.render body else renderCase value (access.clauses rest) := by
      split
      · exact (Planned.render body).mono (List.Sublist.cons_cons _ (List.nil_sublist _))
      · exact (planned_renderCase value rest).mono (List.sublist_cons_self _ _)
    exact (Planned.render key).bind chosen

theorem planned_renderBody (nodes : List Node) :
    Planned nodes fun access => renderBody (access.clauses nodes) := by
  match nodes with
  | [] => exact .pure trivial
  | [node] => exact .render node
  | node :: node' :: nodes =>
    exact (planned_renderSpaced (node :: node' :: nodes)).map (Html.wrapTag "span")

/-- One of the children, found by its place among them. -/
private theorem planned_selected {selected : Option Node} (mem : ∀ node ∈ selected, node ∈ nodes)
    {clause : Access → Option Clause}
    (same : ∀ access, clause access = selected.map fun node => ⟨node, access.render node⟩) :
    PlannedAttempt name nodes fun access => liftM (renderOption (clause access)) := by
  have one : selected.toList.Sublist nodes := by
    cases selected with
    | none => exact List.nil_sublist _
    | some node => exact List.singleton_sublist.mpr (mem node rfl)
  exact (PlannedAttempt.lift ((planned_renderOption selected).mono one)).congr fun access => by
    rw [same access]

private theorem planned_getElem? (nodes : List Node) (i : Nat) :
    PlannedAttempt name nodes fun access => liftM (renderOption (access.clauses nodes)[i]?) :=
  planned_selected (fun _ at_ => List.mem_of_getElem? at_) fun _ => List.getElem?_map

/-- Control commands render their tests and then the branch that is chosen. -/
theorem planned_renderControl (form : ControlForm) (name : String) (nodes : List Node) :
    PlannedAttempt name nodes fun access => renderControl form name (access.clauses nodes) := by
  suffices kept : PlannedAttempt name (nodes.filter fun node => !node.isSpace) fun access =>
      renderControl form name (access.clauses nodes) from kept.mono List.filter_sublist
  simp only [renderControl, significant_clauses]
  generalize nodes.filter (fun node => !node.isSpace) = kept
  match form with
  | .comment => exact .pure ""
  | .first => exact planned_selected (fun _ => List.mem_of_mem_head?) fun _ => List.head?_map
  | .last => exact planned_selected (fun _ => List.mem_of_mem_getLast?) fun _ => List.getLast?_map
  | .cond => exact planned_renderCond name kept
  | .branch =>
    cases kept with
    | nil => exact .ofExcept (.named rfl)
    | cons test rest =>
      refine (planned_truth name test).bind fun isTrue => ?_
      cases isTrue with
      | true => exact planned_getElem? rest 0
      | false => exact planned_getElem? rest 1
  | .unless =>
    cases kept with
    | nil => exact .ofExcept (.named rfl)
    | cons test rest =>
      refine (planned_truth name test).bind fun isTrue => ?_
      cases isTrue with
      | true => exact .pure ""
      | false => exact planned_getElem? rest 0
  | .when =>
    cases kept with
    | nil => exact .ofExcept (.named rfl)
    | cons test rest =>
      refine (planned_truth name test).bind fun isTrue => ?_
      cases isTrue with
      | true => exact .lift (planned_renderBody rest)
      | false => exact .pure ""
  | .case =>
    cases kept with
    | nil => exact .ofExcept (.named rfl)
    | cons subject rest =>
      exact (PlannedAttempt.lift (.render subject)).bind fun value =>
        .lift (planned_renderCase value rest)

/-! ## Links and references -/

theorem planned_argumentText (node : Node) :
    Planned [node] fun access => argumentText ⟨node, access.render node⟩ := by
  cases node with
  | text content => exact .pure trivial
  | space => exact .render .space
  | command name children => exact .render (.command name children)

/-- The first child that is no space is split off in the same way, whatever the
children render to. -/
theorem splitFirstArgument_clauses (nodes : List Node) :
    (∀ access : Access, splitFirstArgument (access.clauses nodes) = none) ∨
      ∃ first rest, (first :: rest).Sublist nodes ∧ ∀ access : Access,
        splitFirstArgument (access.clauses nodes) =
          some (⟨first, access.render first⟩, access.clauses rest) := by
  have dropped (access : Access) (nodes : List Node) :
      (access.clauses nodes).dropWhile (fun clause => clause.node.isSpace) =
        access.clauses (nodes.dropWhile Node.isSpace) := by
    simp only [Access.clauses, List.dropWhile_map, Function.comp_def]
  cases split : nodes.dropWhile Node.isSpace with
  | nil =>
    refine .inl fun access => ?_
    rw [splitFirstArgument, dropped, split]
    rfl
  | cons first rest =>
    refine .inr ⟨first, rest.dropWhile Node.isSpace, ?_, fun access => ?_⟩
    · have kept := (List.dropWhile_sublist Node.isSpace (l := rest)).cons_cons first
      rw [← split] at kept
      exact kept.trans (List.dropWhile_sublist _)
    · rw [splitFirstArgument, dropped, split]
      exact congrArg (fun rest => some (_, rest)) (dropped access rest)

/-- A command that needs a target, and goes on with it and the clauses after it. -/
private theorem planned_requiredUri [AddressReader] {next : String × List Clause → Attempt String}
    (h : ∀ target rest, PlannedAttempt name rest fun access => next (target, access.clauses rest))
    (nodes : List Node) :
    PlannedAttempt name nodes fun access => requiredUri name (access.clauses nodes) >>= next := by
  rcases splitFirstArgument_clauses nodes with none | ⟨first, rest, order, some⟩
  · have arises := CommandError.arisesIn_of_command? (e := .missingUri name) rfl
    refine (PlannedAttempt.throw arises).congr fun access => ?_
    rw [requiredUri, none access]
    rfl
  · have vetted (uri : String) : PlannedAttempt name [] fun _ : Access =>
        Attempt.ofExcept (checkedUri name (trim uri)) :=
      .ofExcept (failsIn_checkedUri _)
    have followed := (PlannedAttempt.lift (planned_argumentText first)).bind fun uri =>
      (vetted uri).bind fun target => h target rest
    refine (followed.mono order).congr fun access => ?_
    rw [requiredUri, some access]
    simp only [bind_assoc, pure_bind]

/-- Links render their target first. -/
theorem planned_renderLink [AddressReader] (name : String) (nodes : List Node) :
    PlannedAttempt name nodes fun access => renderLink name (access.clauses nodes) :=
  planned_requiredUri (fun _ rest => (PlannedAttempt.lift (planned_renderAll rest)).map _) nodes

/-- Images render their target and nothing else. -/
theorem planned_renderImage [AddressReader] (name : String) (nodes : List Node) :
    PlannedAttempt name nodes fun access => renderImage name (access.clauses nodes) := by
  refine planned_requiredUri (fun source rest => ?_) nodes
  refine (PlannedAttempt.pure (Html.image source
    (Html.escape (trimEnd (Node.textContentList rest))))).congr fun access => ?_
  simp only [Access.clauses, List.map_map, Function.comp_def, List.map_id']

theorem planned_renderMailto (name : String) (nodes : List Node) :
    PlannedAttempt name nodes fun access => renderMailto name (access.clauses nodes) := by
  rcases splitFirstArgument_clauses nodes with none | ⟨first, rest, order, some⟩
  · have arises := CommandError.arisesIn_of_command? (e := .missingUri name) rfl
    refine (PlannedAttempt.throw arises).congr fun access => ?_
    rw [renderMailto, none access]
  · have sent (address : String) : PlannedAttempt name rest fun _ =>
        if isEmail address then
          pure (Html.anchor ("mailto:" ++ Html.escape address) (Html.escape address))
        else throw (.invalidEmail address) := by
      split
      · exact .pure _
      · exact .throw nofun
    have followed := (PlannedAttempt.lift (planned_argumentText first)).bind sent
    refine (followed.mono order).congr fun access => ?_
    rw [renderMailto, some access]

/-- A question to the host that counts as failed without an answer. -/
private theorem planned_answer (r : Reference) {e : CommandError} (arises : e.ArisesIn name) :
    PlannedAttempt name nodes (fun access => (do
      recordLookup r
      match access.answer r with
      | some html => pure html
      | none => throw e : Attempt String)) [r] := by
  let answered (answer : Option String) : Attempt String :=
    match answer with
    | some html => pure html
    | none => throw e
  have followed : ∀ answer, PlannedAttempt name [] fun _ : Access => answered answer := by
    intro answer
    cases answer with
    | some html => exact .pure html
    | none => exact .throw arises
  exact (PlannedAttempt.lift (.ask r)).bind_nil followed

theorem planned_entityLink (hosted : Bool) (options : Options) (kind : EntityKind) (id : Nat) :
    PlannedAttempt name nodes (fun access => entityLink (access.setting hosted options) kind id)
      [.entity kind id] := by
  cases hosted with
  | false => exact .pure (plainEntityLink options kind id)
  | true => exact planned_answer (.entity kind id) nofun

theorem planned_userLink (hosted : Bool) (options : Options) (user : String) :
    PlannedAttempt name nodes (fun access => userLink (access.setting hosted options) user)
      [.user user] := by
  cases hosted with
  | false => exact .pure (plainUserLink options user)
  | true => exact planned_answer (.user user) nofun

/-- What a command of the table asks the host about: the first text among its children is
the number of an entity, or the name of a user. -/
def Handler.reference? (handler : Handler) (children : List Node) : Option Reference :=
  match handler with
  | .entity kind => ((children.findSome? Node.asText?).bind entityId?).map (.entity kind)
  | .user => (children.findSome? Node.asText?).map .user
  | _ => none

/-- References to entities ask the host once, and only if they have a number. -/
theorem planned_entityReference (hosted : Bool) (options : Options) (kind : EntityKind)
    (nodes : List Node) :
    PlannedAttempt name nodes
      (fun access => entityReference (access.setting hosted options) kind (access.clauses nodes))
      ((Handler.entity kind).reference? nodes).toList := by
  simp only [entityReference, firstText?_clauses, Handler.reference?]
  cases nodes.findSome? Node.asText? with
  | none => exact .throw nofun
  | some text =>
    simp only [Option.bind_some]
    cases entityId? text with
    | none => exact .throw nofun
    | some id => exact planned_entityLink hosted options kind id

/-- References to users ask the host once, and only if they have a name. -/
theorem planned_userReference (hosted : Bool) (options : Options) (nodes : List Node) :
    PlannedAttempt name nodes
      (fun access => userReference (access.setting hosted options) (access.clauses nodes))
      (Handler.user.reference? nodes).toList := by
  simp only [userReference, firstText?_clauses, Handler.reference?]
  cases nodes.findSome? Node.asText? with
  | none => exact .throw nofun
  | some user => exact planned_userLink hosted options user

/-! ## The table -/

/-- Every command of the table follows a plan, which depends on the answers and the
renderings only where it says so. -/
theorem Handler.planned_run [AddressReader] [SpecialFunctions] (handler : Handler) (hosted : Bool)
    (options : Options) (name : String) (nodes : List Node) :
    PlannedAttempt name nodes
      (fun access => handler.run (access.setting hosted options) name (access.clauses nodes))
      (handler.reference? nodes).toList := by
  have all : PlannedAttempt name nodes fun access => liftM (renderAll (access.clauses nodes)) :=
    .lift (planned_renderAll nodes)
  cases handler with
  | wrap tag => exact all.map (Html.wrapTag tag)
  | wrapWith tag attributes => exact all.map (Html.wrapTagWith tag attributes)
  | literal output => exact .pure output
  | nbsp => exact .lift ((planned_operands nodes).map _)
  | constant value => exact .ofExcept (failsIn_formatNumber value)
  | arithmetic op => exact planned_calculate op.failsIn_apply nodes
  | function f => exact planned_calculate f.failsIn_apply nodes
  | percent op => exact planned_calculate op.failsIn_apply nodes
  | compare op => exact .lift ((planned_operands nodes).map fun xs => truthText (op.holds xs))
  | logic op => exact planned_renderLogic op name nodes
  | control form => exact planned_renderControl form name nodes
  | link => exact planned_renderLink name nodes
  | image => exact planned_renderImage name nodes
  | mailto => exact planned_renderMailto name nodes
  | entity kind => exact planned_entityReference hosted options kind nodes
  | user => exact planned_userReference hosted options nodes

/-- What a command asks the host about. -/
def Node.reference? : Node → Option Reference
  | .command name children => (lookupCommand name).bind fun handler => handler.reference? children
  | _ => none

/-- A command that the table evaluates follows a plan up to its failure: it asks no more
than it names, and a failure leaves its marker. -/
theorem planned_builtin [AddressReader] [SpecialFunctions] (hosted : Bool) (options : Options)
    (name : String) (nodes : List Node) :
    ∃ plan : Plan (Except CommandError String), plan.InOrder nodes ∧
      plan.Gives (fun result => ∀ e, result = .error e → e.GivenTo name)
        (Node.command name nodes).reference?.toList ∧
      ∀ access, builtin (access.setting hosted options) name (access.clauses nodes) =
        (plan.bind (Plan.marked name)).run access := by
  unfold builtin CommandError.GivenTo isKnownCommand
  cases found : lookupCommand name with
  | none =>
    refine ⟨.done (.error (.unknownCommand name)), trivial, ?_, fun _ => rfl⟩
    rintro e ⟨⟩
    rfl
  | some handler =>
    rw [Node.reference?, found]
    exact (handler.planned_run hosted options name nodes).orMarker

end TexMarkup
