import TexMarkup.Proofs.Document.Separator
import TexMarkup.Proofs.Evaluation.History

/-!
# Paragraphs do not affect each other

Two texts with a blank line between them are rendered one after the other: what is left
open in the first one, what fails in it and what the host is asked in it make no
difference to the second one.

## Main definitions

* `joinContents`, `Output.append`: the output of two texts as one.

## Main results

* `joinParagraphs_append`: the frames of paragraphs and the separators between them.
* `renderDocument_append`: the paragraphs of one document after those of another.
* `tryRender_separated`: two texts with a blank line between them.
-/

namespace TexMarkup

variable {setting : Setting} {options : Options}

/-- What stands between two paragraphs that show anything. -/
def paragraphSeparator (options : Options) : String :=
  if options.wrapParagraphs then "\n" else " "

/-- Two rendered texts with a separator between them, if neither is empty. -/
def joinContents (options : Options) (content content' : String) : String :=
  if content = "" then content'
  else if content' = "" then content
  else content ++ paragraphSeparator options ++ content'

/-- The output of two texts that are rendered one after the other. -/
def Output.append (options : Options) (o o' : Output) : Output where
  content := joinContents options o.content o'.content
  warnings := o.warnings ++ o'.warnings
  lookups := o.lookups ++ o'.lookups

/-! ## Paragraphs -/

theorem renderParagraphs_append [AddressReader] [SpecialFunctions]
    (paragraphs paragraphs' : List Paragraph) :
    renderParagraphs setting (paragraphs ++ paragraphs') = (do
      let htmls ← renderParagraphs setting paragraphs
      let htmls' ← renderParagraphs setting paragraphs'
      pure (htmls ++ htmls')) := by
  induction paragraphs with
  | nil => rfl
  | cons paragraph paragraphs ih =>
    simp only [List.cons_append, renderParagraphs, ih, bind_assoc, pure_bind]

/-! ## Joining -/

/-- The paragraphs that show anything, each in its frame. -/
def blocks (options : Options) (htmls : List String) : List String :=
  let shown := htmls.filter fun html => !isAllBlank html
  if options.wrapParagraphs then shown.map Html.wrapParagraph else shown

theorem joinParagraphs_eq (htmls : List String) :
    joinParagraphs options htmls =
      (paragraphSeparator options).intercalate (blocks options htmls) := by
  rw [joinParagraphs, blocks, paragraphSeparator]
  cases options.wrapParagraphs <;> rfl

theorem blocks_append (htmls htmls' : List String) :
    blocks options (htmls ++ htmls') = blocks options htmls ++ blocks options htmls' := by
  simp only [blocks, List.filter_append, List.map_append]
  split <;> rfl

/-- A paragraph that is shown takes up some room. -/
theorem ne_empty_of_mem_blocks {htmls : List String} {block : String}
    (mem : block ∈ blocks options htmls) : block ≠ "" := by
  rw [blocks] at mem
  rintro rfl
  split at mem
  · obtain ⟨html, -, framed⟩ := List.mem_map.mp mem
    have opened := congrArg (fun s => s.toList.head?) framed
    simp [Html.wrapParagraph] at opened
  · exact absurd (List.mem_filter.mp mem).2 (by decide)

theorem intercalate_eq_empty_iff {separator : String} {xs : List String} (each : ∀ x ∈ xs, x ≠ "") :
    separator.intercalate xs = "" ↔ xs = [] := by
  constructor
  · intro empty
    cases xs with
    | nil => rfl
    | cons x xs =>
      have nonempty := each x List.mem_cons_self
      cases xs with
      | nil => exact absurd ((String.intercalate_singleton).symm.trans empty) nonempty
      | cons x' xs =>
        rw [String.intercalate_cons_cons] at empty
        simp only [String.append_eq_empty_iff] at empty
        exact absurd empty.1.1 nonempty
  · rintro rfl
    exact String.intercalate_nil

theorem joinParagraphs_append (htmls htmls' : List String) :
    joinParagraphs options (htmls ++ htmls') =
      joinContents options (joinParagraphs options htmls) (joinParagraphs options htmls') := by
  simp only [joinParagraphs_eq, blocks_append, joinContents,
    intercalate_eq_empty_iff fun _ mem => ne_empty_of_mem_blocks mem]
  split
  · rename_i none
    rw [none, List.nil_append]
  · split
    · rename_i none
      rw [none, List.append_nil]
    · rename_i some some'
      exact String.intercalate_append_of_ne_nil some some'

/-! ## Documents and texts -/

theorem renderDocument_eq [AddressReader] [SpecialFunctions] (document : Document) :
    renderDocument setting document =
      let (htmls, s) := renderParagraphs setting document.paragraphs {}
      ⟨joinParagraphs setting.options htmls, s.warnings, s.lookups⟩ := rfl

/-- The paragraphs of one document after those of another: the output of the first one
stays as it is, and that of the second one comes after it. -/
theorem renderDocument_append [AddressReader] [SpecialFunctions] (delegates : setting.Delegates)
    (document document' : Document) :
    renderDocument setting ⟨document.paragraphs ++ document'.paragraphs⟩ =
      (renderDocument setting document).append setting.options
        (renderDocument setting document') := by
  have depth := (renderParagraphs_historyFree delegates document.paragraphs).depth_eq {}
  have later := renderParagraphs_historyFree delegates document'.paragraphs
    (renderParagraphs setting document.paragraphs {}).2
  rw [depth] at later
  have unfolded : renderParagraphs setting (document.paragraphs ++ document'.paragraphs) {} =
      let (htmls, s) := renderParagraphs setting document.paragraphs {}
      let (htmls', s') := renderParagraphs setting document'.paragraphs s
      (htmls ++ htmls', s') := by
    rw [renderParagraphs_append]
    rfl
  rw [renderDocument_eq, renderDocument_eq, renderDocument_eq, unfolded]
  generalize renderParagraphs setting document.paragraphs {} = run at depth later
  obtain ⟨htmls, s⟩ := run
  simp only [later, joinParagraphs_append]
  rfl

/-- Two texts with a blank line between them. If the first one cannot be read, neither
can both; if only the second one cannot, its error is found as many lines further down as
there are in front of it. Otherwise the output is that of the first text and then that
of the second one, whatever was left open or has failed in the first. -/
theorem tryRender_separated [AddressReader] [SpecialFunctions] (delegates : setting.Delegates)
    {first second separator : String}
    (noReturn : '\r' ∉ first.toList) (noReturn' : '\r' ∉ second.toList)
    (ends : first.toList.getLast? ≠ some '\n') (begins : second.toList.head? ≠ some '\n')
    (long : 2 ≤ separator.toList.length) (newlines : ∀ c ∈ separator.toList, c = '\n') :
    tryRender setting (first ++ separator ++ second) =
      match tryRender setting first, tryRender setting second with
      | .error e, _ => .error e
      | .ok _, .error e => .error (e.addLines ((first ++ separator).toList.count '\n'))
      | .ok output, .ok output' => .ok (output.append setting.options output') := by
  simp only [tryRender, parseDocument_separated noReturn noReturn' ends begins ⟨long, newlines⟩]
  cases parseDocument first setting.options.maxDepth with
  | error e => rfl
  | ok document =>
    cases parseDocument second setting.options.maxDepth with
    | error e => rfl
    | ok document' => exact congrArg Except.ok (renderDocument_append delegates document document')

/-- An argument list that is left open and a command that fails, in front of a question
to the host and in front of a text that cannot be read. -/
theorem tryRender_separated_open :
    let resolver : Resolver := ⟨fun _ _ => none, fun name => some ("@" ++ name)⟩
    let setting : Setting := ⟨.actionable resolver, .inline⟩
    setting.Delegates ∧
      tryRender setting ("\\b\x7bx \\?" ++ "\n\n\n" ++ "\\user\x7bann") =
        .ok ⟨"<b>x <span style=\"color: red\">[unknown command ?]</span></b> @ann",
          [⟨some "?", "unknown command ?"⟩], [.user "ann"]⟩ ∧
      tryRender setting ("\\b\x7bx\n\\?" ++ "\n\n" ++ "y\n\\") =
        .error (.missingCommandName 5 "end of input") := by
  intro resolver setting
  have delegates : setting.Delegates := delegates_actionable _ _
  refine ⟨delegates, ?_, ?_⟩
  · rw [tryRender_separated delegates (by decide) (by decide) (by decide) (by decide) (by decide)
      (by decide)]
    decide +kernel
  · rw [tryRender_separated delegates (by decide) (by decide) (by decide) (by decide) (by decide)
      (by decide)]
    decide +kernel

end TexMarkup
