import TexMarkup.Proofs.Evaluation.Lockstep

/-!
# Evaluation does not look back

The session is passed through everything that is evaluated, but warnings and questions
are only added to it and never read, and the depth is put back where it was. So what
an evaluation gives and adds depends on the depth at which it begins and on nothing
else that happened before.

## Main definitions

* `Session.add`: a session after what another session has recorded.
* `HistoryFree`: an evaluation that gives and adds the same whatever came before.
* `Operation`, `performAll`: what a host can ask of a session, and sequences of it.

## Main results

* `historyFree_lockstep`: the steps of plans and nesting.
* `Node.render_historyFree`, `renderParagraphs_historyFree`: the rendering of trees and of
  paragraphs.
* `operations_historyFree`: sequences of operations.
-/

namespace TexMarkup

/-- The session at the same depth after what the other session has recorded. -/
def Session.add (s recorded : Session) : Session where
  depth := s.depth
  warnings := s.warnings ++ recorded.warnings
  lookups := s.lookups ++ recorded.lookups

/-- The evaluation gives the same as in a session without records that is at the same
depth. It adds what it records there, and it ends at the depth at which it began. -/
def HistoryFree {α : Type} (evaluation : Eval α) : Prop :=
  ∀ s, evaluation s =
    ((evaluation { depth := s.depth }).1, s.add (evaluation { depth := s.depth }).2)

variable {α β : Type} {setting : Setting} {s : Session}

namespace Session

@[simp] theorem add_depth (s recorded : Session) : (s.add recorded).depth = s.depth := rfl

/-- Records that are added one after the other may be added at once. -/
theorem add_assoc (s recorded recorded' : Session) :
    (s.add recorded).add recorded' = s.add (recorded.add recorded') := by
  simp only [add, List.append_assoc]

@[simp] theorem add_empty (s : Session) (depth : Nat) : s.add { depth } = s := by
  simp only [add, List.append_nil]

end Session

/-! ## Steps -/

namespace HistoryFree

variable {evaluation : Eval α}

/-- Such an evaluation leaves the depth as it was. -/
theorem depth_eq (h : HistoryFree evaluation) (s : Session) : (evaluation s).2.depth = s.depth := by
  rw [h s, Session.add_depth]

theorem pure (x : α) : HistoryFree (Pure.pure x : Eval α) := by
  intro s
  show (x, s) = (x, s.add { depth := s.depth })
  rw [Session.add_empty]

/-- Two of them, one after the other, add what both of them record. -/
theorem bind {next : α → Eval β} (h : HistoryFree evaluation) (h' : ∀ x, HistoryFree (next x)) :
    HistoryFree (evaluation >>= next) := by
  intro s
  have first := h s
  have depth := h.depth_eq { depth := s.depth }
  have unfolded (s : Session) :
      (evaluation >>= next) s = next (evaluation s).1 (evaluation s).2 := rfl
  rw [unfolded, unfolded]
  generalize evaluation { depth := s.depth } = fresh at first depth
  obtain ⟨x, recorded⟩ := fresh
  -- What the second evaluation adds comes after what the first one has added.
  have own := h' x recorded
  have after := h' x (s.add recorded)
  have unchanged : recorded.depth = s.depth := depth
  rw [first, after, own, Session.add_depth, Session.add_assoc, unchanged]

theorem fail (command : String) (e : CommandError) : HistoryFree (TexMarkup.fail command e) :=
  fun _ => by simp [TexMarkup.fail, Session.add]

theorem recordLookup (r : Reference) : HistoryFree (TexMarkup.recordLookup r) :=
  fun _ => by simp [TexMarkup.recordLookup, Session.add]

end HistoryFree

/-- A level further down begins and ends with the same records. -/
theorem nested_historyFree {command : Eval String} (h : HistoryFree command) (limit : Nat)
    (name : String) : HistoryFree (nested limit name command) := by
  intro s
  simp only [nested]
  split
  · exact HistoryFree.fail name (.tooDeep limit) s
  · rw [h { s with depth := s.depth + 1 }]
    simp only [Session.add, Nat.add_sub_cancel]
    rfl

/-- The property passes from what the host answers and what children do to commands. -/
theorem historyFree_lockstep (answer : Reference → Option String) :
    DeepLockstep answer answer fun _ evaluation _ => HistoryFree evaluation where
  pure := .pure
  bind h h' := h.bind h'
  fail := .fail
  ask r := (HistoryFree.recordLookup r).bind fun _ => .pure _
  nested limit name {_ _} h := nested_historyFree h limit name

/-! ## Trees -/

section Trees

variable [AddressReader] [SpecialFunctions]

/-- A command records the same after every history, if its children do. -/
theorem evaluate_historyFree (delegates : setting.Delegates) {nodes : List Node}
    (each : ∀ node ∈ nodes, HistoryFree (node.render setting)) (name : String) :
    HistoryFree (evaluate setting name (Node.clauses setting nodes)) := by
  obtain ⟨plan, among, follows⟩ := delegates.exists_plan name nodes
  rw [Node.clauses_eq, Setting.access, follows]
  exact (historyFree_lockstep setting.answer).run_alone among each

private theorem commands_historyFree (delegates : setting.Delegates) (nodes : List Node) :
    setting.CommandsRelate setting (fun _ evaluation _ => HistoryFree evaluation) nodes :=
  fun name _ _ each => evaluate_historyFree delegates each name

/-- Rendering a tree at any depth gives and adds the same whatever came before. -/
theorem Node.render_historyFree (delegates : setting.Delegates) (node : Node) :
    HistoryFree (node.render setting) :=
  (historyFree_lockstep setting.answer).render rfl node (commands_historyFree delegates _)

/-- Nodes record the same after every history, since every command in them does. -/
theorem renderNodes_historyFree (delegates : setting.Delegates) (nodes : List Node) :
    HistoryFree (renderNodes setting nodes) :=
  (historyFree_lockstep setting.answer).renderNodes rfl nodes (commands_historyFree delegates _)

/-- Paragraphs record the same after every history. -/
theorem renderParagraphs_historyFree (delegates : setting.Delegates) (paragraphs : List Paragraph) :
    HistoryFree (renderParagraphs setting paragraphs) :=
  (historyFree_lockstep setting.answer).renderParagraphs rfl paragraphs
    (commands_historyFree delegates _)

theorem builtin_historyFree (delegates : setting.Delegates) (name : String) (nodes : List Node) :
    HistoryFree (builtin setting name (Node.clauses setting nodes)) :=
  (historyFree_lockstep setting.answer).builtin_alone
    (fun node _ => node.render_historyFree delegates) name

/-! ## Sequences of operations -/

/-- What a host can ask of a session. -/
inductive Operation where
  /-- To render a tree. -/
  | render (node : Node)
  /-- To render trees from left to right. -/
  | renderAll (nodes : List Node)
  /-- To evaluate a command with the built-in table. -/
  | builtin (name : String) (children : List Node)
  /-- To record a failure. -/
  | fail (command : String) (e : CommandError)

/-- Does what is asked. -/
def Operation.perform (setting : Setting) : Operation → Eval String
  | render node => node.render setting
  | renderAll nodes => renderNodes setting nodes
  | builtin name children => TexMarkup.builtin setting name (Node.clauses setting children)
  | fail command e => TexMarkup.fail command e

/-- The session after operations one after the other. -/
def performAll (setting : Setting) (s : Session) : List Operation → Session
  | [] => s
  | operation :: operations => performAll setting (operation.perform setting s).2 operations

/-- Every operation records the same after every history. -/
theorem Operation.perform_historyFree (delegates : setting.Delegates) (operation : Operation) :
    HistoryFree (operation.perform setting) := by
  cases operation with
  | render node => exact node.render_historyFree delegates
  | renderAll nodes => exact renderNodes_historyFree delegates nodes
  | builtin name children => exact builtin_historyFree delegates name children
  | fail command e => exact .fail command e

/-- Operations leave the depth as it was. -/
theorem performAll_depth (delegates : setting.Delegates) (operations : List Operation) :
    (performAll setting s operations).depth = s.depth := by
  induction operations generalizing s with
  | nil => rfl
  | cons operation operations ih =>
    rw [performAll, ih, (operation.perform_historyFree delegates).depth_eq]

/-- After any operations the session is at the depth at which it began, and the next
operation gives and adds exactly what it does in a session of its own; the records
before it stay as they are. Within a run the same holds of the rendering of every tree
at every depth. -/
theorem operations_historyFree (delegates : setting.Delegates) :
    (∀ (earlier : List Operation) (operation : Operation),
      let before := performAll setting {} earlier
      let (html, after) := operation.perform setting before
      let (freshHtml, fresh) := operation.perform setting {}
      before.depth = 0 ∧ after.depth = 0 ∧ html = freshHtml ∧
        after.warnings = before.warnings ++ fresh.warnings ∧
        after.lookups = before.lookups ++ fresh.lookups) ∧
      ∀ (node : Node) (s : Session),
        let (html, after) := node.render setting s
        let (freshHtml, fresh) := node.render setting { depth := s.depth }
        after.depth = s.depth ∧ html = freshHtml ∧
          after.warnings = s.warnings ++ fresh.warnings ∧
          after.lookups = s.lookups ++ fresh.lookups := by
  constructor
  · intro earlier operation
    have depth : (performAll setting {} earlier).depth = 0 := performAll_depth delegates earlier
    have same := operation.perform_historyFree delegates (performAll setting {} earlier)
    rw [depth] at same
    simp only [same]
    exact ⟨depth, depth, rfl, rfl, rfl⟩
  · intro node s
    have same := node.render_historyFree delegates s
    simp only [same]
    exact ⟨rfl, rfl, rfl, rfl⟩

end Trees

/-- After a failure and a command past the limit, a host with a command of its own
still renders a text in it as it would have at first. -/
theorem operations_historyFree_templates :
    let setting : Setting := ⟨.templates [("note", "<aside>", "</aside>")], { maxDepth := 1 }⟩
    let earlier : List Operation :=
      [.fail "note" .missingUser, .render (.command "note" [.command "b" []])]
    let operation := Operation.builtin "not" [.command "note" [.text "true"]]
    let before := performAll setting {} earlier
    setting.Delegates ∧ before.warnings.map Warning.message =
        ["user: error: no user specified", "commands nested deeper than 1 levels"] ∧
      (operation.perform setting before).1 =
        "<span style=\"color: red\">[not: &lt;aside&gt;true&lt;/aside&gt; " ++
          "is not a boolean]</span>" ∧
      (operation.perform setting before).2.depth = 0 ∧
      (operation.perform setting before).2.warnings =
        before.warnings ++ [⟨some "not", "not: <aside>true</aside> is not a boolean"⟩] := by
  intro setting earlier operation before
  have delegates : setting.Delegates := delegates_templates _ _
  obtain ⟨-, depth, html, warnings, -⟩ := (operations_historyFree delegates).1 earlier operation
  exact ⟨delegates, by decide +kernel, html.trans (by decide +kernel), depth,
    warnings.trans (by decide +kernel)⟩

end TexMarkup
