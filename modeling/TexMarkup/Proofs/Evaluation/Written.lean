import TexMarkup.Proofs.Document.Walk
import TexMarkup.Proofs.Evaluation.Host
import TexMarkup.Proofs.Evaluation.Result
import TexMarkup.Render

/-!
# How rendered text is written

Rendered text is put together from few kinds of pieces: escaped text, elements around text
that is rendered already, links, numbers and markers. Each marker comes with a warning, and
the pieces come in the order in which their warnings are recorded. Warnings without a piece
belong to text that was rendered and then passed over.

## Main definitions

* `Written`: text put together from pieces, with the warnings recorded meanwhile.

## Main results

* `Handler.run_written`, `Node.render_written`: what a command of the table writes, and how
  a tree is rendered.
* `renderDocument_written`: how a document is rendered.
-/

namespace TexMarkup

/-- The first argument and what comes after it are clauses of the command. -/
theorem splitFirstArgument_subset {first : Clause} {clauses rest : List Clause}
    (split : splitFirstArgument clauses = some (first, rest)) :
    first ∈ clauses ∧ ∀ clause ∈ rest, clause ∈ clauses := by
  rw [splitFirstArgument] at split
  split at split
  · cases split
  · rename_i first' rest' same
    cases split
    have kept {clause : Clause} (mem : clause ∈ first :: rest') : clause ∈ clauses := by
      rw [← same] at mem
      exact (List.dropWhile_sublist _).subset mem
    exact ⟨kept List.mem_cons_self, fun clause mem =>
      kept (List.mem_cons_of_mem _ ((List.dropWhile_sublist _).subset mem))⟩

variable [AddressReader]

/-- Text that is put together without a host, with the warnings that are recorded while it is.
References to users are only written for the users that are named. -/
inductive Written (options : Options) (named : String → Prop) : String → List Warning → Prop
  /-- Nothing, whatever was recorded. -/
  | silent (recorded : List Warning) : Written options named "" recorded
  | append {html html' : String} {recorded recorded' : List Warning} :
    Written options named html recorded → Written options named html' recorded' →
      Written options named (html ++ html') (recorded ++ recorded')
  | trimEnd {html : String} {recorded : List Warning} : Written options named html recorded →
    Written options named (trimEnd html) recorded
  /-- Escaped text. -/
  | text (content : String) : Written options named (Html.escape content) []
  /-- The output of a literal command. -/
  | literal {name output : String} : (name, Handler.literal output) ∈ commandTable →
    Written options named output []
  | nbsp : Written options named nbspText []
  /-- The text of a number. -/
  | number {x : Double} {digits : String} : x.toText? = some digits →
    Written options named digits []
  /-- An element of the table around text. -/
  | wrap {name tag html : String} {recorded : List Warning} :
    (name, Handler.wrap tag) ∈ commandTable → Written options named html recorded →
      Written options named (Html.wrapTag tag html) recorded
  /-- An element of the table with attributes. -/
  | wrapWith {name tag attributes html : String} {recorded : List Warning} :
    (name, Handler.wrapWith tag attributes) ∈ commandTable →
      Written options named html recorded →
        Written options named (Html.wrapTagWith tag attributes html) recorded
  /-- A link with an accepted target. -/
  | link {name uri target html : String} {recorded : List Warning} :
    checkedUri name (trim uri) = .ok target → Written options named html recorded →
      Written options named (Html.anchor target html) recorded
  /-- An image with an accepted source. -/
  | image {name uri source : String} (description : String) :
    checkedUri name (trim uri) = .ok source →
      Written options named (Html.image source (Html.escape description)) []
  | mailto {address : String} : isEmail address = true →
    Written options named
      (Html.anchor ("mailto:" ++ Html.escape address) (Html.escape address)) []
  /-- A link to an entity of the host. -/
  | entity (kind : EntityKind) {id : Nat} : id < 2 ^ 64 →
    Written options named (plainEntityLink options kind id) []
  | user {name : String} : named name → Written options named (plainUserLink options name) []
  /-- The marker of a failure, with its warning. -/
  | marker (command : Option String) (message : String) :
    Written options named (Html.errorMarker message) [⟨command, message⟩]
  /-- A paragraph of a document. -/
  | paragraph {html : String} {recorded : List Warning} : Written options named html recorded →
    Written options named (Html.wrapParagraph html) recorded

variable {options : Options} {named : String → Prop} {html html' : String}
variable {recorded recorded' : List Warning} {clauses : List Clause} {name : String}

namespace Written

/-- Warnings come first that show nothing. -/
theorem after (h : Written options named html recorded') (recorded : List Warning) :
    Written options named html (recorded ++ recorded') := by
  have whole := (Written.silent recorded).append h
  rwa [String.empty_append] at whole

/-- Warnings come last that show nothing. -/
theorem before (h : Written options named html recorded) (recorded' : List Warning) :
    Written options named html (recorded ++ recorded') := by
  have whole := h.append (Written.silent recorded')
  rwa [String.append_empty] at whole

/-- Something is written behind the text without a warning. -/
theorem followed (h : Written options named html recorded) (h' : Written options named html' []) :
    Written options named (html ++ html') recorded := by
  have whole := h.append h'
  rwa [List.append_nil] at whole

theorem space : Written options named " " [] := .text " "

/-- The two texts of truth values. -/
theorem truth (b : Bool) : Written options named (truthText b) [] := by
  cases b with
  | false => exact .text "false"
  | true => exact .text "true"

theorem join_replicate (h : Written options named html []) (count : Nat) :
    Written options named (String.join (List.replicate count html)) [] := by
  induction count with
  | zero => exact .silent []
  | succ count ih =>
    rw [List.replicate_succ, String.join_cons]
    exact h.append ih

end Written

/-- Each of the clauses writes text. -/
def ClausesWrite (options : Options) (named : String → Prop) (clauses : List Clause) : Prop :=
  ∀ clause ∈ clauses, clause.render.Leaves (Written options named)

namespace ClausesWrite

variable {clauses' : List Clause} {clause : Clause}

/-- Some of the clauses write no more than all of them. -/
theorem of_subset (each : ClausesWrite options named clauses)
    (subset : ∀ clause ∈ clauses', clause ∈ clauses) : ClausesWrite options named clauses' :=
  fun clause mem => each clause (subset clause mem)

theorem head (each : ClausesWrite options named (clause :: clauses)) :
    clause.render.Leaves (Written options named) :=
  each clause List.mem_cons_self

theorem tail (each : ClausesWrite options named (clause :: clauses)) :
    ClausesWrite options named clauses :=
  each.of_subset fun _ => List.mem_cons_of_mem _

theorem significant (each : ClausesWrite options named clauses) :
    ClausesWrite options named (significant clauses) :=
  each.of_subset fun _ mem => (List.mem_filter.mp mem).1

end ClausesWrite

/-! ## Evaluations in front of text -/

/-- What is evaluated before shows nothing of itself. -/
theorem Eval.Appends.then_written {α : Type} {evaluation : Eval α} {next : α → Eval String}
    (h : evaluation.Appends) (h' : ∀ x, (next x).Leaves (Written options named)) :
    Eval.Leaves (evaluation >>= next) (Written options named) :=
  h.bind fun x ws _ => (h' x).mono fun _ _ written => written.after ws

theorem Attempt.Appends.then_written {α : Type} {attempt : Attempt α} {next : α → Attempt String}
    (h : attempt.Appends) (h' : ∀ x, (next x).Leaves (Written options named)) :
    Attempt.Leaves (attempt >>= next) (Written options named) :=
  h.bind fun x ws _ => (h' x).mono fun _ _ written => written.after ws

/-- Operands leave no text where they are computed, only warnings. -/
theorem operands_appends (each : ClausesWrite options named clauses) :
    (operands clauses).Appends := by
  induction clauses with
  | nil => exact .pure trivial
  | cons clause clauses ih =>
    rw [operands]
    split
    · exact ih each.tail
    · refine each.head.bind fun html _ _ => ?_
      refine (ih each.tail).bind fun xs _ _ => ?_
      cases coerceNumber html <;> exact .pure trivial

theorem truth_appends {clause : Clause} (own : clause.render.Leaves (Written options named)) :
    (truth name clause).Appends := by
  refine (Attempt.Leaves.lift own).bind fun html _ _ => ?_
  split
  · exact .pure trivial
  · exact .pure trivial
  · exact .throw _

/-- Nor do the tests of a logic command. -/
theorem truths_appends (each : ClausesWrite options named clauses) :
    (truths name clauses).Appends := by
  induction clauses with
  | nil => exact .pure trivial
  | cons clause clauses ih =>
    refine (truth_appends each.head).bind fun b _ _ => ?_
    exact (ih each.tail).bind fun bs _ _ => .pure trivial

/-- What is computed as the text of an argument is not written where it is computed. -/
theorem argumentText_appends {clause : Clause}
    (own : clause.render.Leaves (Written options named)) : (argumentText clause).Appends := by
  rw [argumentText]
  split
  · exact .pure trivial
  · exact own.appends

/-! ## Lists of clauses -/

/-- Clauses that are rendered one after the other are joined in the order of their warnings. -/
theorem renderAll_written (each : ClausesWrite options named clauses) :
    (renderAll clauses).Leaves (Written options named) := by
  induction clauses with
  | nil => exact .pure (.silent [])
  | cons clause clauses ih =>
    refine each.head.bind fun html ws written => ?_
    exact (ih each.tail).map fun rest ws' written' => written.append written'

theorem renderOption_written {clause : Option Clause}
    (own : ∀ c ∈ clause, c.render.Leaves (Written options named)) :
    (renderOption clause).Leaves (Written options named) := by
  cases clause with
  | none => exact .pure (.silent [])
  | some clause => exact own clause rfl

theorem renderSpaced_written (each : ClausesWrite options named clauses) :
    (renderSpaced clauses).Leaves (Written options named) := by
  fun_induction renderSpaced clauses with
  | case1 => exact .pure (.silent [])
  | case2 clause => exact each.head
  | case3 clause clauses _ ih =>
    refine each.head.bind fun html ws written => ?_
    exact (ih each.tail).map fun rest ws' written' => (written.followed .space).append written'

/-! ## Numbers and truth values -/

/-- A number that has a text is written as it. -/
theorem formatNumber_written (x : Double) :
    (Attempt.ofExcept (formatNumber x)).Leaves (Written options named) := by
  refine .ofExcept fun digits written => ?_
  rw [formatNumber] at written
  split at written
  · cases written
    exact .number ‹_›
  · cases written

theorem calculate_written (each : ClausesWrite options named clauses)
    (calculation : List Double → Calculation) :
    (calculate calculation clauses).Leaves (Written options named) := by
  refine Attempt.Appends.then_written (.lift (operands_appends each)) fun xs => ?_
  refine Attempt.Appends.then_written (.ofExcept fun _ _ => trivial) fun x => ?_
  exact formatNumber_written x

theorem compareOperands_written (each : ClausesWrite options named clauses) (op : Comparison) :
    (compareOperands op clauses).Leaves (Written options named) :=
  (operands_appends each).then_written fun xs => .pure (.truth (op.holds xs))

theorem renderNbsp_written (each : ClausesWrite options named clauses) :
    (renderNbsp clauses).Leaves (Written options named) :=
  (operands_appends each).then_written fun _ => .pure (Written.nbsp.join_replicate _)

theorem renderLogic_written (each : ClausesWrite options named clauses) (op : Logic)
    (name : String) :
    (renderLogic op name clauses).Leaves (Written options named) := by
  refine (truths_appends each.significant).then_written fun bs => ?_
  refine Attempt.Appends.then_written (.ofExcept fun _ _ => trivial) fun b => ?_
  exact .pure (.truth b)

/-! ## Choices -/

theorem renderCond_written (each : ClausesWrite options named clauses) :
    (renderCond name clauses).Leaves (Written options named) := by
  fun_induction renderCond name clauses with
  | case1 => exact .pure (.silent [])
  | case2 test => exact (truth_appends each.head).then_written fun _ => .pure (.silent [])
  | case3 test body rest ih =>
    refine (truth_appends each.head).then_written fun isTrue => ?_
    cases isTrue with
    | true => exact .lift each.tail.head
    | false => exact ih each.tail.tail

theorem renderCase_written {value : String} (each : ClausesWrite options named clauses) :
    (renderCase value clauses).Leaves (Written options named) := by
  fun_induction renderCase value clauses with
  | case1 => exact .pure (.silent [])
  | case2 default => exact each.head
  | case3 key body rest ih =>
    refine each.head.appends.then_written fun html => ?_
    split
    · exact each.tail.head
    · exact ih each.tail.tail

theorem renderBody_written (each : ClausesWrite options named clauses) :
    (renderBody clauses).Leaves (Written options named) := by
  have table : ("span", Handler.wrap "span") ∈ commandTable := by decide
  rw [renderBody.eq_def]
  split
  · exact .pure (.silent [])
  · exact each.head
  · exact (renderSpaced_written each).map fun html ws written => written.wrap table

/-- A control command writes one of its branches, behind the warnings of its test. -/
theorem renderControl_written (form : ControlForm) (each : ClausesWrite options named clauses) :
    (renderControl form name clauses).Leaves (Written options named) := by
  have each' : ClausesWrite options named (significant clauses) := each.significant
  have option {cs : List Clause} (ofCs : ClausesWrite options named cs) (i : Nat) :
      (renderOption cs[i]?).Leaves (Written options named) :=
    renderOption_written fun c at_ => ofCs c (List.mem_of_getElem? at_)
  rw [renderControl.eq_def]
  split <;> rename_i same
  · exact .pure (.silent [])
  · exact .lift (renderOption_written fun c head => each' c (List.mem_of_mem_head? head))
  · exact .lift (renderOption_written fun c last => each' c (List.mem_of_mem_getLast? last))
  · exact renderCond_written each'
  -- The test comes first and shows nothing of itself.
  · rw [same] at each'
    refine (truth_appends each'.head).then_written fun isTrue => ?_
    cases isTrue with
    | true => exact .lift (option each'.tail 0)
    | false => exact .lift (option each'.tail 1)
  · rw [same] at each'
    refine (truth_appends each'.head).then_written fun isTrue => ?_
    cases isTrue with
    | true => exact .pure (.silent [])
    | false => exact .lift (option each'.tail 0)
  · rw [same] at each'
    refine (truth_appends each'.head).then_written fun isTrue => ?_
    cases isTrue with
    | true => exact .lift (renderBody_written each'.tail)
    | false => exact .pure (.silent [])
  · rw [same] at each'
    refine Attempt.Appends.then_written (.lift each'.head.appends) fun value => ?_
    exact .lift (renderCase_written each'.tail)
  all_goals exact .throw _

/-! ## Links and references -/

/-- The target of a command has been accepted, and the other clauses are some of
those that were given. -/
theorem requiredUri_leaves (each : ClausesWrite options named clauses) (name : String) :
    (requiredUri name clauses).Leaves fun required _ =>
      (∃ uri, checkedUri name (trim uri) = .ok required.1) ∧
        ∀ clause ∈ required.2, clause ∈ clauses := by
  rw [requiredUri]
  split
  · exact .throw _
  · rename_i first rest split
    obtain ⟨mem, subset⟩ := splitFirstArgument_subset split
    refine Attempt.Leaves.bind (.lift (argumentText_appends (each first mem))) fun uri _ _ => ?_
    exact Attempt.Leaves.map (.ofExcept fun target accepted => accepted)
      fun target _ accepted => ⟨⟨uri, accepted⟩, subset⟩

/-- A target that has been accepted is the escaped text of the address. -/
theorem escape_of_checkedUri {uri target : String} (accepted : checkedUri name uri = .ok target) :
    target = Html.escape uri := by
  rw [checkedUri] at accepted
  split at accepted
  · split at accepted
    · exact (Except.ok.inj accepted).symm
    · cases accepted
  · cases accepted

/-- A link is written around its content, behind the warnings of its target. -/
theorem renderLink_written (each : ClausesWrite options named clauses) (name : String) :
    (renderLink name clauses).Leaves (Written options named) := by
  refine (requiredUri_leaves each name).bind fun required ws ofRequired => ?_
  obtain ⟨target, rest⟩ := required
  obtain ⟨⟨uri, accepted⟩, subset⟩ := ofRequired
  refine (Attempt.Leaves.lift (renderAll_written (each.of_subset subset))).map ?_
  intro html ws' written
  refine (Written.link accepted ?_).after ws
  split
  · have escaped : target = Html.escape (trim uri) := escape_of_checkedUri accepted
    rw [escaped]
    exact (Written.text _).before ws'
  · exact written.trimEnd

/-- Of the description of an image only the text is written. -/
theorem renderImage_written (each : ClausesWrite options named clauses) (name : String) :
    (renderImage name clauses).Leaves (Written options named) := by
  refine (requiredUri_leaves each name).map fun required ws ofRequired => ?_
  obtain ⟨⟨uri, accepted⟩, -⟩ := ofRequired
  exact (Written.image _ accepted).before ws

theorem renderMailto_written (each : ClausesWrite options named clauses) (name : String) :
    (renderMailto name clauses).Leaves (Written options named) := by
  rw [renderMailto]
  split
  · exact .throw _
  · rename_i first _ split
    have own := argumentText_appends (each first (splitFirstArgument_subset split).1)
    refine Attempt.Appends.then_written (.lift own) fun address => ?_
    split
    · rename_i isAddress
      exact .pure (.mailto isAddress)
    · exact .throw _

/-- Without a host an entity is linked by its plain address. -/
theorem entityReference_written (kind : EntityKind) (clauses : List Clause) :
    (entityReference ⟨.standard, options⟩ kind clauses).Leaves (Written options named) := by
  rw [entityReference]
  split
  · exact .throw _
  · split
    · exact .throw _
    · rename_i id isId
      have small : id < 2 ^ 64 := by simpa using (Option.filter_eq_some_iff.mp isId).2
      exact .pure (.entity kind small)

/-- Without a host a user is linked by the plain address of the name. -/
theorem userReference_written (known : ∀ user ∈ firstText? clauses, named user) :
    (userReference ⟨.standard, options⟩ clauses).Leaves (Written options named) := by
  rw [userReference]
  split
  · exact .throw _
  · rename_i user first
    exact .pure (.user (known user first))

/-! ## Lists of paragraphs -/

/-- Texts that are written one after the other, with all that is recorded meanwhile. -/
inductive WrittenList (options : Options) (named : String → Prop) :
    List String → List Warning → Prop
  /-- Nothing, whatever was recorded. -/
  | nil (recorded : List Warning) : WrittenList options named [] recorded
  | cons {html : String} {htmls : List String} {recorded recorded' : List Warning} :
    Written options named html recorded → WrittenList options named htmls recorded' →
      WrittenList options named (html :: htmls) (recorded ++ recorded')

namespace WrittenList

variable {htmls : List String}

/-- More warnings may come in front of those of the texts. -/
theorem after (h : WrittenList options named htmls recorded') (recorded : List Warning) :
    WrittenList options named htmls (recorded ++ recorded') := by
  cases h with
  | nil => exact .nil _
  | cons written later =>
    rw [← List.append_assoc]
    exact .cons (written.after recorded) later

/-- Texts that are left out show nothing. -/
theorem filter (h : WrittenList options named htmls recorded) (shown : String → Bool) :
    WrittenList options named (htmls.filter shown) recorded := by
  induction h with
  | nil => exact .nil _
  | @cons html _ recorded _ written _ ih =>
    rw [List.filter_cons]
    split
    · exact .cons written ih
    · exact ih.after recorded

theorem wrapParagraph (h : WrittenList options named htmls recorded) :
    WrittenList options named (htmls.map Html.wrapParagraph) recorded := by
  induction h with
  | nil => exact .nil _
  | cons written _ ih => exact .cons written.paragraph ih

/-- Texts are joined with the separator between them. -/
theorem intercalate {separator : String} (between : Written options named separator [])
    (h : WrittenList options named htmls recorded) :
    Written options named (separator.intercalate htmls) recorded := by
  induction h with
  | nil => exact .silent _
  | cons written later ih =>
    cases later with
    | nil =>
      rw [String.intercalate_singleton]
      exact written.before _
    | cons _ _ =>
      -- The separator comes without a warning, so it goes with the text in front of it.
      rw [String.intercalate_cons_cons]
      exact (written.followed between).append ih

/-- The paragraphs of a document are one text, with all that was recorded. -/
theorem joinParagraphs (h : WrittenList options named htmls recorded) (options' : Options) :
    Written options named (joinParagraphs options' htmls) recorded := by
  have kept := h.filter fun html => !isAllBlank html
  rw [TexMarkup.joinParagraphs]
  split
  · exact kept.wrapParagraph.intercalate (.text "\n")
  · exact kept.intercalate .space

end WrittenList

/-! ## Commands and trees -/

theorem fail_written (command : String) (e : CommandError) :
    (fail command e).Leaves (Written options named) :=
  .fail (.marker (some command) e.message)

theorem nested_written {command : Eval String} (h : command.Leaves (Written options named))
    (limit : Nat) : (nested limit name command).Leaves (Written options named) :=
  h.nested (.marker (some name) (CommandError.tooDeep limit).message)

variable [SpecialFunctions]

/-- What a command of the table writes. -/
theorem Handler.run_written {handler : Handler} {key : String}
    (table : (key, handler) ∈ commandTable) (each : ClausesWrite options named clauses)
    (known : handler = .user → ∀ user ∈ firstText? clauses, named user) :
    (handler.run ⟨.standard, options⟩ name clauses).Leaves (Written options named) := by
  have all : Attempt.Leaves (liftM (renderAll clauses)) (Written options named) :=
    .lift (renderAll_written each)
  cases handler with
  | wrap tag => exact all.map fun _ _ written => written.wrap table
  | wrapWith tag attributes => exact all.map fun _ _ written => written.wrapWith table
  | literal output => exact .pure (.literal table)
  | nbsp => exact .lift (renderNbsp_written each)
  | constant value => exact formatNumber_written value
  | arithmetic op => exact calculate_written each _
  | function f => exact calculate_written each _
  | percent op => exact calculate_written each _
  | compare op => exact .lift (compareOperands_written each op)
  | logic op => exact renderLogic_written each op name
  | control form => exact renderControl_written form each
  | link => exact renderLink_written each name
  | image => exact renderImage_written each name
  | mailto => exact renderMailto_written each name
  | entity kind => exact entityReference_written kind clauses
  | user => exact userReference_written (known rfl)

/-- Without a host every command is written by the table. -/
theorem evaluate_written (each : ClausesWrite options named clauses)
    (known : lookupCommand name = some .user → ∀ user ∈ firstText? clauses, named user) :
    (evaluate ⟨.standard, options⟩ name clauses).Leaves (Written options named) := by
  show (builtin ⟨.standard, options⟩ name clauses).Leaves (Written options named)
  rw [builtin]
  split
  · exact fail_written _ _
  · rename_i handler found
    have own : (handler.run ⟨.standard, options⟩ name clauses).Leaves (Written options named) :=
      Handler.run_written (mem_commandTable found) each fun isUser => known (isUser ▸ found)
    exact own.orMarker fun e ws => (Written.marker (some name) e.message).after ws

mutual

/-- A rendered tree is written, if the users that it names are named. -/
theorem Node.render_written (node : Node)
    (known : ∀ inner ∈ Node.walk [node], ∀ user, inner.NamesUser user → named user) :
    (node.render ⟨.standard, options⟩).Leaves (Written options named) := by
  match node with
  | .text content => exact .pure (.text content)
  | .space => exact .pure .space
  | .command name children =>
    rw [Node.walk_command] at known
    have below : ∀ inner ∈ Node.walk children, ∀ user, inner.NamesUser user → named user :=
      fun inner mem => known inner (List.mem_cons_of_mem _ mem)
    refine nested_written (evaluate_written (Node.clauses_write children below) ?_) _
    intro isUser user first
    rw [Node.clauses_eq, firstText?_clauses] at first
    exact known _ List.mem_cons_self user ⟨name, children, rfl, isUser, first⟩

/-- The children of a command are written, if the users that they name are named. -/
theorem Node.clauses_write (nodes : List Node)
    (known : ∀ inner ∈ Node.walk nodes, ∀ user, inner.NamesUser user → named user) :
    ClausesWrite options named (Node.clauses ⟨.standard, options⟩ nodes) := by
  match nodes with
  | [] => exact fun _ impossible => nomatch impossible
  | node :: nodes =>
    rw [Node.walk_cons] at known
    intro clause mem
    rcases List.mem_cons.mp mem with rfl | mem
    · exact node.render_written fun inner mem => known inner (List.mem_append_left _ mem)
    · exact Node.clauses_write nodes (fun inner mem => known inner (List.mem_append_right _ mem))
        clause mem

end

/-! ## Documents -/

/-- The paragraphs of a document are written one after the other. -/
theorem renderParagraphs_written (paragraphs : List Paragraph)
    (known : ∀ inner ∈ Document.walk ⟨paragraphs⟩, ∀ user, inner.NamesUser user → named user) :
    (renderParagraphs ⟨.standard, options⟩ paragraphs).Leaves (WrittenList options named) := by
  induction paragraphs with
  | nil => exact .pure (.nil [])
  | cons paragraph paragraphs ih =>
    rw [Document.walk_cons] at known
    have own : ClausesWrite options named (Node.clauses ⟨.standard, options⟩ paragraph.nodes) :=
      Node.clauses_write paragraph.nodes fun inner mem => known inner (List.mem_append_left _ mem)
    have later := ih fun inner mem => known inner (List.mem_append_right _ mem)
    refine (renderAll_written own).bind fun html ws written => ?_
    exact later.map fun htmls ws' writtenList => .cons written writtenList

/-- A rendered document is written with its warnings, if the users that it names are named. -/
theorem renderDocument_written (document : Document)
    (known : ∀ inner ∈ document.walk, ∀ user, inner.NamesUser user → named user) :
    let output := renderDocument ⟨.standard, options⟩ document
    Written options named output.content output.warnings := by
  have paragraphs : (renderParagraphs ⟨.standard, options⟩ document.paragraphs).Leaves
      (WrittenList options named) := renderParagraphs_written document.paragraphs known
  have joined : Eval.Leaves (do
      let htmls ← renderParagraphs ⟨.standard, options⟩ document.paragraphs
      pure (joinParagraphs options htmls)) (Written options named) :=
    paragraphs.map fun htmls ws written => written.joinParagraphs options
  obtain ⟨recorded, added, written⟩ := joined {}
  intro output
  have warnings : output.warnings = recorded := added
  rw [warnings]
  exact written

end TexMarkup
