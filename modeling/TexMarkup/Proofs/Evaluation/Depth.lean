import TexMarkup.Proofs.Document.Image
import TexMarkup.Proofs.Evaluation.Account
import TexMarkup.Proofs.Evaluation.Lockstep
import TexMarkup.Proofs.Evaluation.Shape

/-!
# Nesting limits

The parser and the evaluation count nested commands by themselves, and they count the
same: what can be read under a limit is rendered under it without a command that lies too
deep, and a limit that a tree does not reach makes no difference to it. Below the limit
nothing is evaluated, so a tree is rendered as if what lies deeper had not been written.

## Main definitions

* `AgreeAt`: evaluations that do the same at a depth.
* `Node.truncate`: a tree without what lies below a limit.
* `Script.Shallow`, `Setting.DelegatesShallow`: hosts that do not claim to be too deep
  themselves.

## Main results

* `agreeAt_lockstep`: plans in front of children that are rendered in the same way.
* `Node.render_withMaxDepth`, `Node.render_truncate`: limits that make no difference, and
  what lies below them.
* `message_ne_tooDeep`: a document that does not reach the limit.
* `depthLimits_agree`: the limits of the parser and of the evaluation.
-/

namespace TexMarkup

variable {α β : Type} {depth limit limit' : Nat} {name : String}

/-- Begun at the depth, both evaluations do the same, and they end at the depth. -/
def AgreeAt (depth : Nat) (evaluation evaluation' : Eval α) : Prop :=
  ∀ s, s.depth = depth → evaluation s = evaluation' s ∧ (evaluation s).2.depth = depth

/-! ## Steps and plans -/

namespace AgreeAt

variable {evaluation evaluation' : Eval α} {command command' : Eval String}

theorem pure (x : α) : AgreeAt depth (Pure.pure x : Eval α) (Pure.pure x) :=
  fun _ at_ => ⟨rfl, at_⟩

/-- Evaluations that agree at a depth agree one after the other. -/
theorem bind {next next' : α → Eval β} (h : AgreeAt depth evaluation evaluation')
    (h' : ∀ x, AgreeAt depth (next x) (next' x)) :
    AgreeAt depth (evaluation >>= next) (evaluation' >>= next') := by
  intro s at_
  obtain ⟨same, stays⟩ := h s at_
  obtain ⟨same', stays'⟩ := h' (evaluation s).1 (evaluation s).2 stays
  refine ⟨?_, stays'⟩
  show next (evaluation s).1 (evaluation s).2 = next' (evaluation' s).1 (evaluation' s).2
  rw [same', same]

theorem fail (command : String) (e : CommandError) :
    AgreeAt depth (TexMarkup.fail command e) (TexMarkup.fail command e) :=
  fun _ at_ => ⟨rfl, at_⟩

/-- A level further down, above both limits. -/
theorem nested (h : AgreeAt (depth + 1) command command') (fits : depth < limit)
    (fits' : depth < limit') :
    AgreeAt depth (nested limit name command) (nested limit' name command') := by
  intro s at_
  obtain ⟨same, stays⟩ := h { s with depth := s.depth + 1 } (by rw [at_])
  rw [TexMarkup.nested, TexMarkup.nested, if_neg (by omega), if_neg (by omega), same]
  rw [same] at stays
  refine ⟨rfl, ?_⟩
  show (command' { s with depth := s.depth + 1 }).2.depth - 1 = depth
  omega

/-- Past the limit it does not matter what the command is. -/
theorem nested_of_le (past : limit ≤ depth) (command command' : Eval String) :
    AgreeAt depth (TexMarkup.nested limit name command) (TexMarkup.nested limit name command') := by
  intro s at_
  rw [TexMarkup.nested, TexMarkup.nested, if_pos (by omega), if_pos (by omega)]
  exact ⟨rfl, at_⟩

end AgreeAt

/-- Agreement passes from children to commands, whatever the host answers. -/
theorem agreeAt_lockstep (answer : Reference → Option String) (depth : Nat) :
    Lockstep answer answer fun _ => AgreeAt depth where
  pure := .pure
  bind h h' := h.bind h'
  fail := .fail
  ask _ _ at_ := ⟨rfl, at_⟩

/-! ## Limits that are not reached -/

/-- The setting with another nesting limit. -/
def Setting.withMaxDepth (setting : Setting) (limit : Nat) : Setting :=
  ⟨setting.commander, setting.options.withMaxDepth limit⟩

section Limits

variable [AddressReader] [SpecialFunctions] {setting : Setting}

/-- Single commands know nothing of the limit. -/
theorem evaluate_withMaxDepth (setting : Setting) (limit : Nat) (name : String)
    (clauses : List Clause) :
    evaluate (setting.withMaxDepth limit) name clauses = evaluate setting name clauses := by
  have sameHost : (setting.withMaxDepth limit).commander = setting.commander := rfl
  rw [evaluate, evaluate, sameHost]
  cases setting.commander.custom name with
  | some command => rfl
  | none => exact builtin_eq_of_resolver_eq rfl rfl name clauses

/-- A tree is rendered in the same way under two limits that it does not reach. -/
theorem Node.render_withMaxDepth (delegates : setting.Delegates) (node : Node) (depth : Nat)
    (fits : depth + node.depth ≤ limit) (fits' : depth + node.depth ≤ limit') :
    AgreeAt depth (node.render (setting.withMaxDepth limit))
      (node.render (setting.withMaxDepth limit')) := by
  match node with
  | .text content => exact .pure (Html.escape content)
  | .space => exact .pure " "
  | .command name children =>
    rw [Node.depth] at fits fits'
    have each : ∀ child ∈ children, AgreeAt (depth + 1)
        (child.render (setting.withMaxDepth limit))
        (child.render (setting.withMaxDepth limit')) := by
      intro child mem
      have below := Node.depth_le_depthList mem
      exact Node.render_withMaxDepth delegates child (depth + 1) (by omega) (by omega)
    obtain ⟨plan, among, follows⟩ := delegates.exists_plan name children
    rw [Node.render, Node.render]
    refine AgreeAt.nested ?_ (by show depth < limit; omega) (by show depth < limit'; omega)
    rw [evaluate_withMaxDepth, evaluate_withMaxDepth, Node.clauses_eq, Node.clauses_eq]
    show AgreeAt (depth + 1)
      (evaluate setting name (Access.clauses ⟨setting.answer, Node.render _⟩ children))
      (evaluate setting name (Access.clauses ⟨setting.answer, Node.render _⟩ children))
    rw [follows, follows]
    exact (agreeAt_lockstep setting.answer (depth + 1)).run among each

/-- Two limits that nodes fit in make no difference to them. -/
theorem renderNodes_withMaxDepth (delegates : setting.Delegates) {nodes : List Node}
    (fits : ∀ node ∈ nodes, node.depth ≤ limit) (fits' : ∀ node ∈ nodes, node.depth ≤ limit') :
    AgreeAt 0 (renderNodes (setting.withMaxDepth limit) nodes)
      (renderNodes (setting.withMaxDepth limit') nodes) := by
  rw [renderNodes, renderNodes, Node.clauses_eq, Node.clauses_eq]
  refine (agreeAt_lockstep setting.answer 0).renderAll fun node mem => ?_
  exact node.render_withMaxDepth delegates 0 (by have := fits node mem; omega)
    (by have := fits' node mem; omega)

/-- Two limits that all paragraphs fit in make no difference to them. -/
theorem renderParagraphs_withMaxDepth (delegates : setting.Delegates) {paragraphs : List Paragraph}
    (fits : Document.NestsWithin ⟨paragraphs⟩ limit)
    (fits' : Document.NestsWithin ⟨paragraphs⟩ limit') :
    AgreeAt 0 (renderParagraphs (setting.withMaxDepth limit) paragraphs)
      (renderParagraphs (setting.withMaxDepth limit') paragraphs) := by
  induction paragraphs with
  | nil => exact .pure []
  | cons paragraph paragraphs ih =>
    have first := renderNodes_withMaxDepth delegates (fits paragraph List.mem_cons_self)
      (fits' paragraph List.mem_cons_self)
    refine first.bind fun html => (ih ?_ ?_).bind fun htmls => .pure (html :: htmls)
    · exact fun paragraph mem => fits paragraph (List.mem_cons_of_mem _ mem)
    · exact fun paragraph mem => fits' paragraph (List.mem_cons_of_mem _ mem)

end Limits

/-! ## What lies below the limit -/

/-- The tree with every command emptied that lies inside as many others. -/
def Node.truncate : Nat → Node → Node
  | 0, .command name _ => .command name []
  | limit + 1, .command name children => .command name (children.map (truncate limit))
  | _, .text content => .text content
  | _, .space => .space

@[simp] theorem Node.truncate_text (limit : Nat) (content : String) :
    (Node.text content).truncate limit = .text content := by
  cases limit <;> rfl

@[simp] theorem Node.truncate_space (limit : Nat) : Node.space.truncate limit = .space := by
  cases limit <;> rfl

/-- Nodes are truncated inside, so spaces and texts stay what they are. -/
theorem Node.truncate_keepsShape (limit : Nat) : KeepsShape (Node.truncate limit) := by
  intro node
  cases node <;> cases limit <;> exact ⟨rfl, rfl⟩

/-- The command is an image. -/
def Node.IsImage (node : Node) : Prop :=
  ∃ name children, node = .command name children ∧ lookupCommand name = some .image

section Below

variable [AddressReader] [SpecialFunctions] {setting : Setting}

/-- Rewritten children are rendered as the rewriting says. -/
theorem Node.clauses_map (setting : Setting) (f : Node → Node) (nodes : List Node) :
    Node.clauses setting (nodes.map f) =
      (Access.clauses ⟨setting.answer, fun node => (f node).render setting⟩ nodes).map
        (Clause.rewrite f) := by
  rw [Node.clauses_eq, Access.clauses, Access.clauses, List.map_map, List.map_map]
  rfl

/-- A tree without images is rendered as if what lies below the limit had not been written. -/
theorem Node.render_truncate (resolver : Option Resolver) (options : Options) (node : Node)
    (noImages : ∀ inner ∈ Node.walk [node], ¬ inner.IsImage) (depth : Nat) :
    AgreeAt depth (node.render ⟨{ resolver }, options⟩)
      ((node.truncate (options.maxDepth - depth)).render ⟨{ resolver }, options⟩) := by
  match node with
  | .text content =>
    rw [Node.truncate_text]
    exact .pure (Html.escape content)
  | .space =>
    rw [Node.truncate_space]
    exact .pure " "
  | .command name children =>
    rw [Node.walk_command] at noImages
    by_cases deep : options.maxDepth ≤ depth
    · rw [Nat.sub_eq_zero_of_le deep, Node.truncate, Node.render, Node.render]
      exact AgreeAt.nested_of_le deep _ _
    · -- One level down, there is one level less to keep.
      have below : options.maxDepth - depth = options.maxDepth - (depth + 1) + 1 := by omega
      have each : ∀ child ∈ children, AgreeAt (depth + 1) (child.render ⟨{ resolver }, options⟩)
          ((child.truncate (options.maxDepth - (depth + 1))).render ⟨{ resolver }, options⟩) := by
        intro child mem
        refine Node.render_truncate resolver options child (fun inner mem' => ?_) (depth + 1)
        exact noImages inner (List.mem_cons_of_mem _ (mem_walk mem mem'))
      have noImage : lookupCommand name ≠ some .image :=
        fun isImage => noImages _ List.mem_cons_self ⟨name, children, rfl, isImage⟩
      obtain ⟨plan, among, follows⟩ := builtin_exists_plan ⟨{ resolver }, options⟩ name children
      rw [below, Node.truncate, Node.render, Node.render]
      refine AgreeAt.nested ?_ (Nat.lt_of_not_le deep) (Nat.lt_of_not_le deep)
      show AgreeAt (depth + 1) (builtin _ name (Node.clauses _ children))
        (builtin _ name (Node.clauses _ (children.map _)))
      rw [Node.clauses_map, builtin_rewrite (Node.truncate_keepsShape _) noImage, Node.clauses_eq,
        Setting.access, follows, follows]
      exact (agreeAt_lockstep _ (depth + 1)).run among each

end Below

/-! ## Failures at the limit -/

/-- The script never says that its command lies too deep. -/
def Script.Shallow : Script → Prop
  | done _ => True
  | render _ next => ∀ html, (next html).Shallow
  | delegate _ _ next => ∀ html, (next html).Shallow
  | fail _ e next => (∀ limit, e ≠ .tooDeep limit) ∧ ∀ html, (next html).Shallow

/-- The commands of the host only render their children and delegate, and never say that
they lie too deep. -/
def Setting.DelegatesShallow [AddressReader] [SpecialFunctions] (setting : Setting) : Prop :=
  setting.Follows fun _ _ script => script.Shallow

section Hosts

variable [AddressReader] [SpecialFunctions]

/-- Without a host no failure of depth comes from one. -/
theorem delegatesShallow_standard (options : Options) :
    Setting.DelegatesShallow ⟨.standard, options⟩ :=
  follows_standard options

/-- A host that only answers questions records no failure of depth. -/
theorem delegatesShallow_actionable (resolver : Resolver) (options : Options) :
    Setting.DelegatesShallow ⟨.actionable resolver, options⟩ :=
  follows_actionable resolver options

/-- Templates record no failure of depth by themselves. -/
theorem delegatesShallow_templates (table : List (String × String × String)) (options : Options) :
    Setting.DelegatesShallow ⟨.templates table, options⟩ :=
  follows_templates fun _ _ _ _ _ => trivial

end Hosts

/-- A warning is charged if it says that a command lies inside `limit` others. -/
def depthAccount (limit : Nat) : Account Unit where
  warning w := if w.message = (CommandError.tooDeep limit).message then {()} else 0
  lookup _ := 0
  blame _ := 0

/-- Only the failure of depth is counted. -/
theorem depthAccount_warning (limit : Nat) {e : CommandError}
    (shallow : ∀ limit', e ≠ .tooDeep limit') (command : Option String) :
    (depthAccount limit).warning ⟨command, e.message⟩ = 0 := by
  refine if_neg fun same => ?_
  obtain ⟨limit', isDeep⟩ := CommandError.exists_eq_tooDeep same
  exact shallow limit' isDeep

/-- No command of the table fails with the failure of depth. -/
theorem CommandError.GivenTo.ne_tooDeep {e : CommandError} (given : e.GivenTo name) (limit : Nat) :
    e ≠ .tooDeep limit := by
  rintro rfl
  unfold CommandError.GivenTo at given
  split at given
  · exact given
  · cases given

theorem depthAccount_own (limit : Nat) (node : Node) : (depthAccount limit).own node = 0 := by
  cases node with
  | command name children => exact Account.own_command (fun _ => rfl) name children
  | text content => rfl
  | space => rfl

/-- Nothing may be spent on any node. -/
theorem depthAccount_budget (limit : Nat) (nodes : List Node) :
    (depthAccount limit).budget nodes = 0 := by
  rw [Account.budget, funext (depthAccount_own limit), List.sum_map_zero]

/-- What is read under a limit fits in it. -/
theorem nestsWithin_of_parseDocument {text : String} {document : Document}
    (read : parseDocument text limit = .ok document) : document.NestsWithin limit := by
  rw [parseDocument] at read
  cases parsed : Parser.document (Parser.mk limit 0 1 []) (tokenize text) with
  | error e q =>
    rw [parsed] at read
    cases read
  | ok document' q =>
    rw [parsed] at read
    cases read
    exact (Parser.document_canonical (tokenize_spec text).2 parsed).2

section Shallow

variable [AddressReader] [SpecialFunctions] {setting : Setting} {nodes : List Node}

/-- A command of the table records no failure of depth that its children do not. -/
theorem builtin_costs_depth (limit : Nat)
    (each : ∀ node ∈ nodes, Costs (depthAccount limit) depth (node.render setting)
      ((depthAccount limit).budget [node])) (name : String) :
    Costs (depthAccount limit) depth (builtin setting name (Node.clauses setting nodes)) 0 := by
  have free : ∀ e : CommandError, e.GivenTo name →
      (depthAccount limit).warning ⟨some name, e.message⟩ ≤ (depthAccount limit).blame name :=
    fun e given => (depthAccount_warning limit given.ne_tooDeep _).le
  have whole := builtin_costs free each
  rwa [depthAccount_budget] at whole

/-- A script that is not too deep by its own account records no such failure. -/
theorem Script.Shallow.run_costs {script : Script} (shallow : script.Shallow) (limit : Nat)
    (each : ∀ node ∈ nodes, Costs (depthAccount limit) depth (node.render setting)
      ((depthAccount limit).budget [node])) :
    Costs (depthAccount limit) depth (script.run setting (Node.clauses setting nodes)) 0 := by
  have chosen (positions : List Nat) : ∀ node ∈ select nodes positions,
      Costs (depthAccount limit) depth (node.render setting) ((depthAccount limit).budget [node]) :=
    fun node mem => each node (select_subset nodes positions mem)
  induction script with
  | done html => exact .pure html
  | render positions next ih =>
    have rendered := renderNodes_costs (chosen positions)
    rw [depthAccount_budget] at rendered
    rw [Script.run, select_clauses]
    exact rendered.bind fun html => ih html (shallow html)
  | delegate name positions next ih =>
    rw [Script.run, select_clauses]
    have delegated := builtin_costs_depth limit (chosen positions) name
    exact delegated.bind fun html => ih html (shallow html)
  | fail command e next ih =>
    have failed : Costs (depthAccount limit) depth (TexMarkup.fail command e) _ := .fail command e
    rw [depthAccount_warning limit shallow.1] at failed
    exact failed.bind fun html => ih html (shallow.2 html)

theorem Setting.DelegatesShallow.covers (h : setting.DelegatesShallow) (limit : Nat) :
    (depthAccount limit).Covers setting := by
  intro name children depth each
  rw [depthAccount_budget]
  unfold evaluate
  split
  · rename_i command found
    obtain ⟨script, shallow, follows⟩ := h name command found
    rw [follows]
    exact (shallow _).run_costs limit each
  · exact builtin_costs_depth limit each name

/-- No warning of a document says that a command lies too deep, if none does. -/
theorem message_ne_tooDeep (h : setting.DelegatesShallow) {document : Document}
    (fits : document.NestsWithin setting.options.maxDepth) {w : Warning}
    (mem : w ∈ (renderDocument setting document).warnings) (limit : Nat) :
    w.message ≠ (CommandError.tooDeep limit).message := by
  intro same
  have charge := renderDocument_costs (h.covers limit) (.inl fits)
  rw [funext (depthAccount_own limit), List.sum_map_zero] at charge
  have single := sum_map_le_of_sublist (depthAccount limit).warning (List.singleton_sublist.mpr mem)
  have isDeep : (depthAccount limit).warning w = {()} := if_pos same
  rw [List.map_singleton, List.sum_singleton, isDeep] at single
  exact absurd (single.trans ((Multiset.le_add_right _ _).trans charge)) (by decide)

end Shallow

/-- What a parser reads under a limit is rendered under the same limit without a command
that lies too deep. Two limits that a tree or a document does not reach make no difference
to it. For a commander without commands of a host, with a resolver or without one, what lies
below the limit makes none either, in a tree without images. -/
theorem depthLimits_agree [AddressReader] [SpecialFunctions] :
    (∀ setting : Setting, setting.DelegatesShallow → ∀ text output,
      tryRender setting text = .ok output → ∀ w ∈ output.warnings, ∀ limit,
        w.message ≠ (CommandError.tooDeep limit).message) ∧
      (∀ setting : Setting, setting.Delegates → ∀ limit limit',
        (∀ node : Node, node.depth ≤ limit → node.depth ≤ limit' →
          renderNode (setting.withMaxDepth limit) node =
            renderNode (setting.withMaxDepth limit') node) ∧
        ∀ document : Document, document.NestsWithin limit → document.NestsWithin limit' →
          renderDocument (setting.withMaxDepth limit) document =
            renderDocument (setting.withMaxDepth limit') document) ∧
      ∀ (resolver : Option Resolver) (options : Options) (node : Node),
        (∀ inner ∈ Node.walk [node], ¬ inner.IsImage) →
          renderNode ⟨{ resolver }, options⟩ node =
            renderNode ⟨{ resolver }, options⟩ (node.truncate options.maxDepth) := by
  refine ⟨fun setting h text output rendered w mem => ?_, fun setting h limit limit' => ?_,
    fun resolver options node noImages => ?_⟩
  · rw [tryRender] at rendered
    cases read : parseDocument text setting.options.maxDepth with
    | error e =>
      rw [read] at rendered
      cases rendered
    | ok document =>
      rw [read] at rendered
      cases rendered
      exact message_ne_tooDeep h (nestsWithin_of_parseDocument read) mem
  · constructor
    · intro node fits fits'
      have same : node.render (setting.withMaxDepth limit) {} =
          node.render (setting.withMaxDepth limit') {} :=
        (node.render_withMaxDepth h 0 (by omega) (by omega) {} rfl).1
      rw [renderNode, renderNode, Output.ofEval, Output.ofEval, same]
    · intro document fits fits'
      have joined : AgreeAt 0 (do
          let paragraphs ← renderParagraphs (setting.withMaxDepth limit) document.paragraphs
          pure (joinParagraphs (setting.withMaxDepth limit).options paragraphs)) (do
          let paragraphs ← renderParagraphs (setting.withMaxDepth limit') document.paragraphs
          pure (joinParagraphs (setting.withMaxDepth limit').options paragraphs)) :=
        (renderParagraphs_withMaxDepth h fits fits').bind fun _ => .pure _
      rw [renderDocument, renderDocument, Output.ofEval, Output.ofEval, (joined {} rfl).1]
  · have same := (node.render_truncate resolver options noImages 0 {} rfl).1
    rw [renderNode, renderNode, Output.ofEval, Output.ofEval, same, Nat.sub_zero]

/-- At the limit a text is read and rendered; one level less, and its innermost command
gives way to a failure, whatever it holds. -/
theorem depthLimits_agree_emphasis :
    let setting : Setting := ⟨.templates [("note", "<aside>", "</aside>")], { maxDepth := 3 }⟩
    let node : Node := .command "b" [.command "i" [.command "not" [.text "maybe"]]]
    (∃ output, tryRender setting "\\note\x7b\\b\x7b\\i\x7bx\x7d\x7d\x7d" = .ok output ∧
      ∀ w ∈ output.warnings, ∀ limit, w.message ≠ (CommandError.tooDeep limit).message) ∧
      setting.Delegates ∧
      renderNode (setting.withMaxDepth 3) node = renderNode (setting.withMaxDepth 5) node ∧
      (renderNode ⟨{ resolver := none }, { maxDepth := 2 }⟩ node).warnings =
        [⟨some "not", "commands nested deeper than 2 levels"⟩] ∧
      renderNode ⟨{ resolver := none }, { maxDepth := 2 }⟩ node =
        renderNode ⟨{ resolver := none }, { maxDepth := 2 }⟩
          (.command "b" [.command "i" [.command "not" []]]) := by
  intro setting node
  have shallow : setting.DelegatesShallow := delegatesShallow_templates _ _
  have noImages : ∀ inner ∈ Node.walk [node], ¬ inner.IsImage := by
    simp only [node, Node.walk, List.append_nil, List.mem_cons, List.not_mem_nil, or_false]
    rintro inner (rfl | rfl | rfl | rfl) ⟨name, children, same, isImage⟩ <;> cases same <;>
      exact absurd isImage (by decide +kernel)
  obtain ⟨unwarned, same, below⟩ := depthLimits_agree
  refine ⟨?_, shallow.delegates, ?_, by decide +kernel, ?_⟩
  · cases rendered : tryRender setting "\\note\x7b\\b\x7b\\i\x7bx\x7d\x7d\x7d" with
    | error e =>
      have readable : (tryRender setting "\\note\x7b\\b\x7b\\i\x7bx\x7d\x7d\x7d").isOk = true := by
        decide +kernel
      rw [rendered] at readable
      cases readable
    | ok output => exact ⟨output, rfl, unwarned setting shallow _ output rendered⟩
  · exact (same setting shallow.delegates 3 5).1 node (by decide) (by decide)
  · exact below none { maxDepth := 2 } node noImages

end TexMarkup
