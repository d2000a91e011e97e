import TexMarkup.Proofs.Document.Canonical
import TexMarkup.Proofs.Document.Walk
import TexMarkup.Proofs.Evaluation.PlainText
import TexMarkup.Proofs.Html.Tags

/-!
# Formatted text

Commands that format put an element around what is below them and leave it alone. So a tree
of such commands is rendered without warnings, and what is rendered is its plain text, with
tags in between.

## Main definitions

* `Handler.Wraps`: an element is put around the rendered children.
* `Setting.Formats`: a tree of commands of this kind that the host leaves to the table.

## Main results

* `Node.render_formatting`: such a tree shows its plain text and adds nothing to the session.
* `renderNode_formatting`: without its tags the rendering of such a tree is its plain text,
  escaped.
-/

namespace TexMarkup

/-- The handler puts an element around the rendered children. -/
inductive Handler.Wraps : Handler → Prop
  | wrap (tag : String) : Wraps (.wrap tag)
  | wrapWith (tag attributes : String) : Wraps (.wrapWith tag attributes)

variable {name shown : String} {s : Session}

/-- The evaluation leaves the session as it is, and its HTML shows the text. -/
def Eval.ShowsAt (evaluation : Eval String) (s : Session) (shown : String) : Prop :=
  ∃ html, evaluation s = (html, s) ∧ Html.ShowsText html (Html.escape shown)

theorem Eval.showsAt_escape (text : String) (s : Session) :
    Eval.ShowsAt (pure (Html.escape text)) s text :=
  ⟨Html.escape text, rfl, .text (Html.tagFree_escape text)⟩

/-- Above the limit a command shows what it shows one level further down. -/
theorem nested_showsAt {limit : Nat} {command : Eval String} (allowed : s.depth < limit)
    (h : command.ShowsAt { s with depth := s.depth + 1 } shown) :
    (nested limit name command).ShowsAt s shown := by
  obtain ⟨html, rendered, showing⟩ := h
  refine ⟨html, ?_, showing⟩
  rw [nested, if_neg (Nat.not_le.mpr allowed), rendered]
  rfl

section Formatting

variable [AddressReader] [SpecialFunctions] {setting : Setting}

/-- Every command in the tree puts an element around its children, and the host leaves all
of them to the table. -/
def Setting.Formats (setting : Setting) (node : Node) : Prop :=
  ∀ name children, .command name children ∈ Node.walk [node] →
    (∃ handler, lookupCommand name = some handler ∧ handler.Wraps) ∧
      ∀ clauses, evaluate setting name clauses = builtin setting name clauses

theorem Setting.Formats.child {children : List Node} {child : Node}
    (h : setting.Formats (.command name children)) (mem : child ∈ children) :
    setting.Formats child := by
  intro inner clauses below
  refine h inner clauses ?_
  rw [Node.walk_command]
  exact List.mem_cons_of_mem _ (Node.mem_walk mem below)

/-- What is rendered one after the other shows the texts one after the other. -/
theorem renderAll_showsAt {nodes : List Node}
    (each : ∀ node ∈ nodes, (node.render setting).ShowsAt s node.textContent) :
    (renderAll (Node.clauses setting nodes)).ShowsAt s (Node.textContentList nodes) := by
  induction nodes with
  | nil => exact Eval.showsAt_escape "" s
  | cons node nodes ih =>
    obtain ⟨html, rendered, showing⟩ := each node List.mem_cons_self
    obtain ⟨rest, renderedRest, showsRest⟩ :=
      ih fun node' mem => each node' (List.mem_cons_of_mem _ mem)
    refine ⟨html ++ rest, ?_, ?_⟩
    · rw [Node.clauses, renderAll, Eval.bind_of_eq rendered, Eval.bind_of_eq renderedRest]
      rfl
    · rw [Node.textContentList, Html.escape_append]
      exact showing.append showsRest

/-- A command that puts an element around its children shows what they show. -/
theorem builtin_showsAt {handler : Handler} {clauses : List Clause}
    (found : lookupCommand name = some handler) (wraps : handler.Wraps)
    (h : (renderAll clauses).ShowsAt s shown) : (builtin setting name clauses).ShowsAt s shown := by
  obtain ⟨html, rendered, showing⟩ := h
  cases wraps with
  | wrap tag =>
    have run : (Handler.run (.wrap tag) setting name clauses).run s =
        (.ok (Html.wrapTag tag html), s) := Attempt.run_lift_bind rendered _
    exact ⟨_, builtin_of_run found run, showing.wrapTag (.wrap (mem_commandTable found))⟩
  | wrapWith tag attributes =>
    have run : (Handler.run (.wrapWith tag attributes) setting name clauses).run s =
        (.ok (Html.wrapTagWith tag attributes html), s) := Attempt.run_lift_bind rendered _
    exact ⟨_, builtin_of_run found run, showing.wrapTagWith (.wrapWith (mem_commandTable found))⟩

/-- A tree of formatting commands that stays within the limit shows its plain text, and
nothing is added to the session. -/
theorem Node.render_formatting (node : Node) (formats : setting.Formats node) (s : Session)
    (fits : s.depth + node.depth ≤ setting.options.maxDepth) :
    (node.render setting).ShowsAt s node.textContent := by
  match node with
  | .text content => exact Eval.showsAt_escape content s
  | .space => exact Eval.showsAt_escape " " s
  | .command name children =>
    rw [Node.depth] at fits
    have own := formats name children (by rw [walk_command]; exact List.mem_cons_self)
    obtain ⟨⟨handler, found, wraps⟩, delegated⟩ := own
    have each : ∀ child ∈ children,
        (child.render setting).ShowsAt { s with depth := s.depth + 1 } child.textContent := by
      intro child mem
      have below := Node.depth_le_depthList mem
      exact Node.render_formatting child (formats.child mem) _ (by show s.depth + 1 + _ ≤ _; omega)
    rw [Node.render, Node.textContent, delegated]
    exact nested_showsAt (by omega) (builtin_showsAt found wraps (renderAll_showsAt each))

/-- A tree of commands that format, within the limit, is rendered without warnings and without
questions to the host. With everything deleted from each `<` to the next `>`, what is rendered
is the plain text of the tree, escaped. -/
theorem renderNode_formatting (setting : Setting) (node : Node) (formats : setting.Formats node)
    (fits : node.depth ≤ setting.options.maxDepth) :
    (renderNode setting node).warnings = [] ∧ (renderNode setting node).lookups = [] ∧
      Html.withoutTags (renderNode setting node).content.toList =
        (Html.escape node.textContent).toList := by
  obtain ⟨html, rendered, showing⟩ := node.render_formatting formats {} (by rwa [Nat.zero_add])
  rw [renderNode, Output.ofEval, rendered]
  exact ⟨rfl, rfl, showing.withoutTags_eq⟩

end Formatting

/-- A list with attributes under another name, exactly at the limit, and text with brackets and
quotation marks of its own. -/
theorem renderNode_formatting_list :
    let setting : Setting := ⟨.templates [("note", "<aside>", "</aside>")], { maxDepth := 3 }⟩
    let node : Node := .command "b"
      [.text "a<", .space, .command "ul_disc" [.command "li" [.text "\"b\">"], .command "i" []]]
    setting.Formats node ∧ node.depth ≤ setting.options.maxDepth ∧
      renderNode setting node =
        ⟨"<b>a&lt; <ul style=\"list-style-type: disc;\"><li>&quot;b&quot;&gt;</li><i></i></ul></b>",
          [], []⟩ ∧
      Html.withoutTags (renderNode setting node).content.toList =
        "a&lt; &quot;b&quot;&gt;".toList := by
  intro setting node
  have formats : setting.Formats node := by
    intro name children mem
    simp only [node, Node.walk, List.cons_append, List.nil_append, List.append_nil, List.mem_cons,
      List.not_mem_nil, or_false, reduceCtorEq, false_or, Node.command.injEq] at mem
    rcases mem with ⟨rfl, -⟩ | ⟨rfl, -⟩ | ⟨rfl, -⟩ | ⟨rfl, -⟩
    · exact ⟨⟨_, by decide +kernel, .wrap "b"⟩, fun _ => rfl⟩
    · exact ⟨⟨_, by decide +kernel, .wrapWith "ul" "style=\"list-style-type: disc;\""⟩,
        fun _ => rfl⟩
    · exact ⟨⟨_, by decide +kernel, .wrap "li"⟩, fun _ => rfl⟩
    · exact ⟨⟨_, by decide +kernel, .wrap "i"⟩, fun _ => rfl⟩
  have shown := (renderNode_formatting setting node formats (by decide)).2.2
  refine ⟨formats, by decide, by decide +kernel, shown.trans (by decide)⟩

end TexMarkup
