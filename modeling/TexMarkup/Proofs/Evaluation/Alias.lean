import TexMarkup.Proofs.Evaluation.Depth
import TexMarkup.Proofs.Evaluation.Result

/-!
# Other names for the same commands

A name and the name under which it is looked up stand for the same command. What was written
is still seen, but only by failures: a command under another name does the same, or both fail,
and then both leave a warning. So as long as there are no warnings the names can be changed.

## Main definitions

* `UpToErrors`: attempts that are the same except for the errors with which they fail.
* `SameOrWarned`: evaluations that are the same unless both add warnings.
* `Node.normalized`, `Document.normalized`: every command under the name of its lookup.

## Main results

* `Handler.run_upToErrors`: names go nowhere but into errors.
* `sameOrWarned_lockstep`: plans in front of children that are rendered in the same way.
* `Node.render_normalized`: a tree with its names changed.
* `renderDocument_of_normalized_eq`: documents without warnings.
-/

namespace TexMarkup

variable {α β : Type}

/-! ## Attempts and their errors -/

/-- Both attempts leave the same session, and they have the same result or both of them fail,
for whatever reasons. -/
def UpToErrors (attempt attempt' : Attempt α) : Prop :=
  ∀ s, (attempt.run s).1.toOption = (attempt'.run s).1.toOption ∧
    (attempt.run s).2 = (attempt'.run s).2

namespace UpToErrors

variable {attempt attempt' : Attempt α}

theorem refl (attempt : Attempt α) : UpToErrors attempt attempt :=
  fun _ => ⟨rfl, rfl⟩

theorem throw (e e' : CommandError) :
    UpToErrors (MonadExcept.throw e : Attempt α) (MonadExcept.throw e') :=
  fun _ => ⟨rfl, rfl⟩

theorem ofExcept {result result' : Except CommandError α}
    (same : result.toOption = result'.toOption) :
    UpToErrors (Attempt.ofExcept result) (Attempt.ofExcept result') :=
  fun _ => ⟨same, rfl⟩

theorem bind {next next' : α → Attempt β} (h : UpToErrors attempt attempt')
    (h' : ∀ x, UpToErrors (next x) (next' x)) :
    UpToErrors (attempt >>= next) (attempt' >>= next') := by
  intro s
  obtain ⟨given, after⟩ := h s
  rw [ExceptT.run_bind, ExceptT.run_bind]
  rcases ran : attempt.run s with ⟨result, s₁⟩
  rcases ran' : attempt'.run s with ⟨result', s₂⟩
  rw [ran, ran'] at given after
  obtain rfl : s₁ = s₂ := after
  rw [Eval.bind_of_eq ran, Eval.bind_of_eq ran']
  match result, result', given with
  | .ok x, .ok _, rfl => exact h' x s₁
  | .error _, .error _, _ => exact ⟨rfl, rfl⟩

end UpToErrors

/-! ## What is calculated -/

section Names

variable (name name' : String)

theorem Arithmetic.toOption_apply (op : Arithmetic) (xs : List Double) :
    (op.apply name xs).toOption = (op.apply name' xs).toOption := by
  -- Only without operands the name is used, and then there is no result.
  cases op <;> rcases xs with _ | ⟨x, _ | ⟨y, xs⟩⟩ <;> rfl

theorem NumericFunction.toOption_apply [SpecialFunctions] (f : NumericFunction) (xs : List Double) :
    (f.apply name xs).toOption = (f.apply name' xs).toOption := by
  cases f <;> rcases xs with _ | ⟨x, _ | ⟨y, xs⟩⟩ <;> rfl

theorem Percentage.toOption_apply (op : Percentage) (xs : List Double) :
    (op.apply name xs).toOption = (op.apply name' xs).toOption := by
  rcases xs with _ | ⟨x, _ | ⟨y, xs⟩⟩ <;> rfl

theorem Logic.toOption_apply (op : Logic) (bs : List Bool) :
    (op.apply name bs).toOption = (op.apply name' bs).toOption := by
  cases op <;> rcases bs with _ | ⟨b, _ | ⟨b', bs⟩⟩ <;> rfl

theorem toOption_checkedUri [AddressReader] (uri : String) :
    (checkedUri name uri).toOption = (checkedUri name' uri).toOption := by
  unfold checkedUri
  split
  · split <;> rfl
  · rfl

/-! ## Commands under other names -/

theorem calculate_upToErrors {calculation calculation' : List Double → Calculation}
    (same : ∀ xs, (calculation xs).toOption = (calculation' xs).toOption) (clauses : List Clause) :
    UpToErrors (calculate calculation clauses) (calculate calculation' clauses) := by
  refine UpToErrors.bind (.refl _) fun xs => ?_
  exact UpToErrors.bind (.ofExcept (same xs)) fun x => .refl _

theorem truth_upToErrors (clause : Clause) :
    UpToErrors (truth name clause) (truth name' clause) := by
  refine UpToErrors.bind (.refl _) fun html => ?_
  split
  · exact .refl _
  · exact .refl _
  · exact .throw _ _

theorem truths_upToErrors (clauses : List Clause) :
    UpToErrors (truths name clauses) (truths name' clauses) := by
  induction clauses with
  | nil => exact .refl _
  | cons clause clauses ih =>
    exact (truth_upToErrors name name' clause).bind fun b => ih.bind fun bs => .refl _

theorem renderLogic_upToErrors (op : Logic) (clauses : List Clause) :
    UpToErrors (renderLogic op name clauses) (renderLogic op name' clauses) := by
  refine (truths_upToErrors name name' _).bind fun bs => ?_
  exact UpToErrors.bind (.ofExcept (op.toOption_apply name name' bs)) fun b => .refl _

theorem renderCond_upToErrors (clauses : List Clause) :
    UpToErrors (renderCond name clauses) (renderCond name' clauses) := by
  fun_induction renderCond name clauses with
  | case1 => exact .refl _
  | case2 test => exact (truth_upToErrors name name' test).bind fun _ => .refl _
  | case3 test body rest ih =>
    refine (truth_upToErrors name name' test).bind fun isTrue => ?_
    cases isTrue with
    | true => exact .refl _
    | false => exact ih

theorem renderControl_upToErrors (form : ControlForm) (clauses : List Clause) :
    UpToErrors (renderControl form name clauses) (renderControl form name' clauses) := by
  unfold renderControl
  split
  · exact .refl _
  · exact .refl _
  · exact .refl _
  · exact renderCond_upToErrors name name' _
  · exact (truth_upToErrors name name' _).bind fun _ => .refl _
  · exact (truth_upToErrors name name' _).bind fun _ => .refl _
  · exact (truth_upToErrors name name' _).bind fun _ => .refl _
  · exact .refl _
  all_goals exact .throw _ _

theorem requiredUri_upToErrors [AddressReader] (clauses : List Clause) :
    UpToErrors (requiredUri name clauses) (requiredUri name' clauses) := by
  unfold requiredUri
  split
  · exact .throw _ _
  · refine UpToErrors.bind (.refl _) fun uri => ?_
    exact UpToErrors.bind (.ofExcept (toOption_checkedUri name name' _)) fun target => .refl _

theorem renderMailto_upToErrors (clauses : List Clause) :
    UpToErrors (renderMailto name clauses) (renderMailto name' clauses) := by
  unfold renderMailto
  split
  · exact .throw _ _
  · exact .refl _

/-- The name under which a command of the table is called goes nowhere but into its errors. -/
theorem Handler.run_upToErrors [AddressReader] [SpecialFunctions] (handler : Handler)
    (setting : Setting) (clauses : List Clause) :
    UpToErrors (handler.run setting name clauses) (handler.run setting name' clauses) := by
  cases handler with
  | arithmetic op => exact calculate_upToErrors (op.toOption_apply name name') clauses
  | function f => exact calculate_upToErrors (f.toOption_apply name name') clauses
  | percent op => exact calculate_upToErrors (op.toOption_apply name name') clauses
  | logic op => exact renderLogic_upToErrors name name' op clauses
  | control form => exact renderControl_upToErrors name name' form clauses
  | link => exact (requiredUri_upToErrors name name' clauses).bind fun _ => .refl _
  | image => exact (requiredUri_upToErrors name name' clauses).bind fun _ => .refl _
  | mailto => exact renderMailto_upToErrors name name' clauses
  | wrap | wrapWith | literal | nbsp | constant | compare | entity | user => exact .refl _

end Names

/-! ## The same, or a warning -/

/-- The evaluation adds a warning. -/
def Eval.WarnsAt (evaluation : Eval α) (s : Session) : Prop :=
  s.warnings.length < (evaluation s).2.warnings.length

section Warnings

variable {evaluation : Eval α} {next : α → Eval β} {s : Session}

theorem Eval.Appends.length_le (h : evaluation.Appends) (s : Session) :
    s.warnings.length ≤ (evaluation s).2.warnings.length := by
  obtain ⟨recorded, added, -⟩ := h s
  rw [added, List.length_append]
  exact Nat.le_add_right _ _

theorem Eval.WarnsAt.bind (h : evaluation.WarnsAt s) (h' : ∀ x, (next x).Appends) :
    Eval.WarnsAt (evaluation >>= next) s :=
  Nat.lt_of_lt_of_le h ((h' _).length_le _)

theorem Eval.Appends.bind_warnsAt (h : evaluation.Appends)
    (h' : (next (evaluation s).1).WarnsAt (evaluation s).2) :
    Eval.WarnsAt (evaluation >>= next) s :=
  Nat.lt_of_le_of_lt (h.length_le s) h'

theorem fail_warnsAt (command : String) (e : CommandError) (s : Session) :
    (fail command e).WarnsAt s := by
  simp [Eval.WarnsAt, fail]

theorem orMarker_appends {attempt : Attempt String} (h : attempt.run.Appends) (name : String) :
    (attempt.orMarker name).Appends :=
  Attempt.Leaves.orMarker (h.mono fun _ _ _ _ _ => trivial) fun _ _ => trivial

theorem UpToErrors.appends {attempt attempt' : Attempt α} (h : UpToErrors attempt attempt')
    (h' : attempt.run.Appends) : attempt'.run.Appends := by
  intro s
  rw [← (h s).2]
  exact h' s

end Warnings

/-- Neither evaluation takes warnings away, and in each session they do the same or both add
a warning. -/
structure SameOrWarned (α : Type) (evaluation evaluation' : Eval α) : Prop where
  appends : evaluation.Appends
  appends' : evaluation'.Appends
  same : ∀ s, evaluation s = evaluation' s ∨ evaluation.WarnsAt s ∧ evaluation'.WarnsAt s

namespace SameOrWarned

variable {evaluation evaluation' evaluation'' : Eval α}

theorem refl (h : evaluation.Appends) : SameOrWarned α evaluation evaluation :=
  ⟨h, h, fun _ => .inl rfl⟩

theorem symm (h : SameOrWarned α evaluation evaluation') : SameOrWarned α evaluation' evaluation :=
  ⟨h.appends', h.appends, fun s => (h.same s).imp Eq.symm And.symm⟩

theorem trans (h : SameOrWarned α evaluation evaluation')
    (h' : SameOrWarned α evaluation' evaluation'') : SameOrWarned α evaluation evaluation'' where
  appends := h.appends
  appends' := h'.appends'
  same s := by
    rcases h.same s with same | ⟨warned, warnedBetween⟩
    · rcases h'.same s with same' | ⟨warned, warned'⟩
      · exact .inl (same.trans same')
      · refine .inr ⟨?_, warned'⟩
        rwa [Eval.WarnsAt, same]
    · rcases h'.same s with same' | ⟨-, warned'⟩
      · refine .inr ⟨warned, ?_⟩
        rwa [Eval.WarnsAt, ← same']
      · exact .inr ⟨warned, warned'⟩

theorem bind {next next' : α → Eval β} (h : SameOrWarned α evaluation evaluation')
    (h' : ∀ x, SameOrWarned β (next x) (next' x)) :
    SameOrWarned β (evaluation >>= next) (evaluation' >>= next') where
  appends := h.appends.bind fun x _ _ => (h' x).appends
  appends' := h.appends'.bind fun x _ _ => (h' x).appends'
  same s := by
    rcases h.same s with same | ⟨warned, warned'⟩
    · -- Both go on from the same session with what is related again.
      rcases (h' (evaluation s).1).same (evaluation s).2 with later | ⟨warned, warned'⟩
      · refine .inl ?_
        show next (evaluation s).1 (evaluation s).2 = next' (evaluation' s).1 (evaluation' s).2
        rw [later, same]
      · refine .inr ⟨h.appends.bind_warnsAt warned, h.appends'.bind_warnsAt ?_⟩
        rwa [← same]
    · exact .inr ⟨warned.bind fun x => (h' x).appends, warned'.bind fun x => (h' x).appends'⟩

theorem fail (command command' : String) (e e' : CommandError) :
    SameOrWarned String (TexMarkup.fail command e) (TexMarkup.fail command' e') :=
  ⟨.fail trivial, .fail trivial,
    fun s => .inr ⟨fail_warnsAt command e s, fail_warnsAt command' e' s⟩⟩

/-- Past the limit both commands fail, under whatever names. -/
theorem nested {command command' : Eval String} (h : SameOrWarned String command command')
    (limit : Nat) (name name' : String) :
    SameOrWarned String (nested limit name command) (nested limit name' command') where
  appends := h.appends.nested trivial
  appends' := h.appends'.nested trivial
  same s := by
    by_cases deep : limit ≤ s.depth
    · refine .inr ⟨?_, ?_⟩
      all_goals
        rw [Eval.WarnsAt, TexMarkup.nested, if_pos deep]
        exact fail_warnsAt _ _ s
    · rw [Eval.WarnsAt, Eval.WarnsAt, TexMarkup.nested, TexMarkup.nested, if_neg deep, if_neg deep]
      rcases h.same { s with depth := s.depth + 1 } with same | warned
      · exact .inl (by rw [same])
      · exact .inr warned

/-- Where attempts fail that are the same up to their errors, both leave a warning. -/
theorem orMarker {attempt attempt' : Attempt String} (h : UpToErrors attempt attempt')
    (appends : attempt.run.Appends) (name name' : String) :
    SameOrWarned String (attempt.orMarker name) (attempt'.orMarker name') where
  appends := orMarker_appends appends name
  appends' := orMarker_appends (h.appends appends) name'
  same s := by
    obtain ⟨given, after⟩ := h s
    have kept := appends.length_le s
    rcases ran : attempt.run s with ⟨result, s₁⟩
    rcases ran' : attempt'.run s with ⟨result', s₂⟩
    rw [ran] at kept
    rw [ran, ran'] at given after
    obtain rfl : s₁ = s₂ := after
    rw [Eval.WarnsAt, Eval.WarnsAt, Attempt.orMarker_of_run ran, Attempt.orMarker_of_run ran']
    match result, result', given with
    | .ok html, .ok _, rfl => exact .inl rfl
    | .error e, .error e', _ =>
      -- The errors need not agree, and so neither do the markers and the warnings.
      exact .inr ⟨Nat.lt_of_le_of_lt kept (fail_warnsAt name e s₁),
        Nat.lt_of_le_of_lt kept (fail_warnsAt name' e' s₁)⟩

end SameOrWarned

theorem sameOrWarned_lockstep (answer : Reference → Option String) :
    Lockstep answer answer SameOrWarned where
  pure _ := .refl (.pure trivial)
  bind h h' := h.bind h'
  fail command e := .fail command command e e
  ask _ := .refl fun s => ⟨[], (List.append_nil s.warnings).symm, trivial⟩

/-! ## Trees -/

/-- A name is looked up under itself once it has been normalized. -/
theorem normalizeName_normalizeName (name : String) :
    normalizeName (normalizeName name) = normalizeName name := by
  rw [normalizeName, normalizeName, String.toList_ofList, List.map_map]
  refine congrArg String.ofList (List.map_congr_left fun c _ => ?_)
  by_cases underscore : c = '_' <;> simp [underscore]

mutual

/-- The tree with every command under the name of its lookup. -/
def Node.normalized : Node → Node
  | .text content => .text content
  | .space => .space
  | .command name children => .command (normalizeName name) (normalizedList children)

/-- The trees of a list with every command under the name of its lookup. -/
def Node.normalizedList : List Node → List Node
  | [] => []
  | node :: nodes => node.normalized :: normalizedList nodes

end

/-- The paragraph with every command under the name of its lookup. -/
def Paragraph.normalized (paragraph : Paragraph) : Paragraph :=
  ⟨Node.normalizedList paragraph.nodes⟩

/-- The document with every command under the name of its lookup. -/
def Document.normalized (document : Document) : Document :=
  ⟨document.paragraphs.map Paragraph.normalized⟩

namespace Node

theorem normalizedList_eq_map (nodes : List Node) :
    normalizedList nodes = nodes.map normalized := by
  induction nodes with
  | nil => rfl
  | cons node nodes ih => rw [normalizedList, ih, List.map_cons]

theorem normalized_keepsShape : KeepsShape normalized := by
  intro node
  cases node <;> exact ⟨rfl, rfl⟩

mutual

/-- Names are no part of the plain text. -/
theorem textContent_normalized (node : Node) : node.normalized.textContent = node.textContent := by
  match node with
  | .text content => rfl
  | .space => rfl
  | .command name children =>
    rw [normalized, textContent, textContent, textContentList_normalizedList children]

theorem textContentList_normalizedList (nodes : List Node) :
    textContentList (normalizedList nodes) = textContentList nodes := by
  match nodes with
  | [] => rfl
  | node :: nodes =>
    rw [normalizedList, textContentList, textContentList, textContent_normalized node,
      textContentList_normalizedList nodes]

end

end Node

section Documents

variable [AddressReader] [SpecialFunctions] {name name' : String} {nodes : List Node}
variable {render : Node → Eval String}

/-- A command of the table only adds warnings if its children do. -/
theorem Handler.run_appends (handler : Handler) (hosted : Bool) (options : Options)
    (access : Access) (each : ∀ node ∈ nodes, (access.render node).Appends) (name : String) :
    (handler.run (access.setting hosted options) name (access.clauses nodes)).run.Appends := by
  obtain ⟨plan, inOrder, -, follows⟩ := handler.planned_run hosted options name nodes
  have followed : (handler.run (access.setting hosted options) name (access.clauses nodes)).run =
      plan.run access := follows access
  have related := (sameOrWarned_lockstep access.answer).run inOrder.among
    fun node mem => SameOrWarned.refl (each node mem)
  rw [followed]
  exact related.appends

/-- Two names that are looked up under the same one. -/
theorem builtin_sameOrWarned (setting : Setting)
    (renamed : normalizeName name = normalizeName name')
    (each : ∀ node ∈ nodes, (render node).Appends) :
    SameOrWarned String (builtin setting name (Access.clauses ⟨setting.answer, render⟩ nodes))
      (builtin setting name' (Access.clauses ⟨setting.answer, render⟩ nodes)) := by
  have found : lookupCommand name = lookupCommand name' := by
    rw [lookupCommand, renamed, lookupCommand]
  rw [builtin_eq_setting setting rfl rfl, builtin_eq_setting setting rfl rfl, builtin, builtin,
    found]
  cases lookupCommand name' with
  | none => exact .fail _ _ _ _
  | some handler =>
    exact .orMarker (handler.run_upToErrors name name' _ _)
      (handler.run_appends _ _ ⟨setting.answer, render⟩ each name) name name'

/-- A tree without commands of a host, and the same tree with every command under the name of
its lookup. -/
theorem Node.render_normalized (resolver : Option Resolver) (options : Options) (node : Node) :
    SameOrWarned String (node.render ⟨{ resolver }, options⟩)
      (node.normalized.render ⟨{ resolver }, options⟩) := by
  match node with
  | .text content => exact .refl (.pure trivial)
  | .space => exact .refl (.pure trivial)
  | .command name children =>
    have each : ∀ child ∈ children, SameOrWarned String (child.render ⟨{ resolver }, options⟩)
        (child.normalized.render ⟨{ resolver }, options⟩) :=
      fun child mem => child.render_normalized resolver options
    obtain ⟨plan, among, follows⟩ := builtin_exists_plan ⟨{ resolver }, options⟩ name children
    have unhosted (name : String) (clauses : List Clause) :
        evaluate ⟨{ resolver }, options⟩ name clauses =
          builtin ⟨{ resolver }, options⟩ name clauses := rfl
    rw [Node.normalized, Node.normalizedList_eq_map, Node.render, Node.render, unhosted, unhosted,
      Node.clauses_map, builtin_rewrite_of_textContent Node.normalized_keepsShape
        Node.textContent_normalized, Node.clauses_eq, Setting.access]
    refine SameOrWarned.nested ?_ options.maxDepth name (normalizeName name)
    refine SameOrWarned.trans ?_ (builtin_sameOrWarned _ (normalizeName_normalizeName name).symm
      fun child mem => (each child mem).appends')
    rw [follows, follows]
    exact (sameOrWarned_lockstep _).run among each

theorem renderNodes_normalized (resolver : Option Resolver) (options : Options)
    (nodes : List Node) :
    SameOrWarned String (renderNodes ⟨{ resolver }, options⟩ nodes)
      (renderNodes ⟨{ resolver }, options⟩ (Node.normalizedList nodes)) := by
  rw [renderNodes, renderNodes, Node.normalizedList_eq_map, Node.clauses_map, renderAll_rewrite,
    Node.clauses_eq, Setting.access]
  exact (sameOrWarned_lockstep _).renderAll fun node _ => node.render_normalized resolver options

theorem renderParagraphs_normalized (resolver : Option Resolver) (options : Options)
    (paragraphs : List Paragraph) :
    SameOrWarned (List String) (renderParagraphs ⟨{ resolver }, options⟩ paragraphs)
      (renderParagraphs ⟨{ resolver }, options⟩ (paragraphs.map Paragraph.normalized)) := by
  induction paragraphs with
  | nil => exact .refl (.pure trivial)
  | cons paragraph paragraphs ih =>
    refine (renderNodes_normalized resolver options paragraph.nodes).bind fun html => ?_
    exact ih.bind fun htmls => .refl (.pure trivial)

theorem Document.rendering_normalized (resolver : Option Resolver) (options : Options)
    (document : Document) :
    SameOrWarned String (document.rendering ⟨{ resolver }, options⟩)
      (document.normalized.rendering ⟨{ resolver }, options⟩) :=
  (renderParagraphs_normalized resolver options document.paragraphs).bind fun _ =>
    .refl (.pure trivial)

/-- Names of commands can be changed for others that are looked up under the same name. As long
as a document is rendered without warnings, by a commander without commands of a host, with a
resolver or without one, the other document is rendered to the same, with the same questions to
the host and without warnings too. -/
theorem renderDocument_of_normalized_eq (resolver : Option Resolver) (options : Options)
    {document document' : Document} (renamed : document'.normalized = document.normalized)
    (quiet : (renderDocument ⟨{ resolver }, options⟩ document).warnings = []) :
    renderDocument ⟨{ resolver }, options⟩ document' =
      renderDocument ⟨{ resolver }, options⟩ document := by
  -- Under the names of their lookups both documents are one and the same.
  have related := document.rendering_normalized resolver options
  have related' := document'.rendering_normalized resolver options
  rw [renamed] at related'
  rcases (related.trans related'.symm).same {} with same | ⟨warned, -⟩
  · rw [renderDocument_eq_ofEval, renderDocument_eq_ofEval, Output.ofEval, Output.ofEval, same]
  · have silent : (document.rendering ⟨{ resolver }, options⟩ {}).2.warnings = [] := quiet
    rw [Eval.WarnsAt, silent] at warned
    exact absurd warned (Nat.lt_irrefl 0)

end Documents

/-- A difference, a list and a question to the host under other names, in front of an unknown
command that is passed over. -/
theorem renderDocument_of_normalized_eq_choice :
    let resolver : Resolver := ⟨fun _ _ => some "Tag", fun _ => none⟩
    let document : Document := ⟨[⟨[.command "if" [.command "=" [.command "-" [.text "5", .space,
      .text "3"], .space, .text "2"], .space, .command "ul-disc" [.command "li" [.command "tag-id"
      [.text "7"]]], .space, .command "no-such-command" []]]⟩]⟩
    let document' : Document := ⟨[⟨[.command "if" [.command "=" [.command "_" [.text "5", .space,
      .text "3"], .space, .text "2"], .space, .command "ul_disc" [.command "li" [.command "tag_id"
      [.text "7"]]], .space, .command "no_such-command" []]]⟩]⟩
    document'.normalized = document.normalized ∧
      (renderDocument ⟨{ resolver := some resolver }, {}⟩ document).warnings = [] ∧
      renderDocument ⟨{ resolver := some resolver }, {}⟩ document' =
        ⟨"<p>\n<ul style=\"list-style-type: disc;\"><li>Tag</li></ul>\n</p>\n", [],
          [.entity .tag 7]⟩ := by
  intro resolver document document'
  have renamed : document'.normalized = document.normalized := by decide +kernel
  have quiet : (renderDocument ⟨{ resolver := some resolver }, {}⟩ document).warnings = [] := by
    decide +kernel
  refine ⟨renamed, quiet, ?_⟩
  rw [renderDocument_of_normalized_eq (some resolver) {} renamed quiet]
  decide +kernel

end TexMarkup
