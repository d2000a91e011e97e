import TexMarkup.Proofs.Evaluation.Lockstep
import TexMarkup.Proofs.Lint.Line

/-!
# The entry points agree

A text can be checked, read, and rendered with or without an error. Either all of these
accept the text or none does. What cannot be read is reported everywhere with the same
message, in a warning that names no command, and evaluation records no such warning.

## Main definitions

* `NamesWarnings`: an evaluation all of whose warnings name a command.
* `Setting.NamesWarnings`: the commands of the host are such evaluations.

## Main results

* `Setting.Delegates.namesWarnings`: hosts that only render children and delegate.
* `renderDocument_namesWarnings`: the warnings of a document name commands.
* `entryPoints_agree`: checking, reading and rendering a text.
-/

namespace TexMarkup

/-- If all warnings name a command before the evaluation, then all do after it. -/
def NamesWarnings {α : Type} (evaluation : Eval α) : Prop :=
  ∀ s, (∀ w ∈ s.warnings, w.command ≠ none) → ∀ w ∈ (evaluation s).2.warnings, w.command ≠ none

/-! ## Findings -/

/-- The check finds an error exactly where reading fails, and nothing else then. -/
theorem checkMarkup_of_error {text : String} {e : ParseError}
    (failed : parseDocument text = .error e) :
    (checkMarkup text).diagnostics = [parseErrorDiagnostic e] := by
  have found := checkMarkup_diagnostics text
  rw [parseDocument] at failed
  cases read : Parser.document (Parser.mk defaultMaxDepth 0 1 []) (tokenize text) with
  | error e' p =>
    rw [read] at found failed
    cases failed
    exact found
  | ok document p =>
    rw [read] at failed
    cases failed

theorem checkMarkup_of_ok {text : String} {document : Document}
    (parsed : parseDocument text = .ok document) :
    ∀ d ∈ (checkMarkup text).diagnostics, d.severity ≠ .error := by
  have found := checkMarkup_diagnostics text
  rw [parseDocument] at parsed
  cases read : Parser.document (Parser.mk defaultMaxDepth 0 1 []) (tokenize text) with
  | error e p =>
    rw [read] at parsed
    cases parsed
  | ok document' p =>
    rw [read] at found
    rw [found]
    intro d mem
    rcases List.mem_append.mp mem with mem | mem
    · rw [severity_of_mem_unknownCommands mem]
      decide
    · obtain ⟨close, -, rfl⟩ := List.mem_map.mp mem
      simp [openListNote]

/-! ## Evaluations -/

theorem fail_namesWarnings (command : String) (e : CommandError) :
    NamesWarnings (fail command e) := by
  intro s named w mem
  rcases List.mem_append.mp mem with mem | mem
  · exact named w mem
  · obtain rfl := List.mem_singleton.mp mem
    exact nofun

theorem namesWarnings_lockstep (answer : Reference → Option String) :
    DeepLockstep answer answer fun _ evaluation _ => NamesWarnings evaluation where
  pure _ _ named := named
  bind h h' s named := h' _ _ (h s named)
  fail := fail_namesWarnings
  ask _ _ named := named
  nested limit name {command _} h := by
    intro s named
    by_cases deep : limit ≤ s.depth
    · rw [nested, if_pos deep]
      exact fail_namesWarnings name (.tooDeep limit) s named
    · rw [nested, if_neg deep]
      exact h { s with depth := s.depth + 1 } named

section Texts

variable [AddressReader] [SpecialFunctions] {setting : Setting}

/-- The commands of the host record no warning without a command, if their children record
none. A host can only record warnings by failing as a command. -/
def Setting.NamesWarnings (setting : Setting) : Prop :=
  ∀ name command, setting.commander.custom name = some command → ∀ children : List Node,
    (∀ child ∈ children, TexMarkup.NamesWarnings (child.render setting)) →
      TexMarkup.NamesWarnings (command (Node.clauses setting children))

theorem Setting.Delegates.namesWarnings (delegates : setting.Delegates) :
    setting.NamesWarnings := by
  intro name command found children each
  obtain ⟨plan, among, follows⟩ := delegates.exists_plan name children
  have own : evaluate setting name (Node.clauses setting children) =
      command (Node.clauses setting children) := by
    rw [evaluate, found]
  rw [← own, Node.clauses_eq, Setting.access, follows]
  exact (namesWarnings_lockstep setting.answer).run_alone among each

/-- Every warning about a document names a command. -/
theorem renderDocument_namesWarnings (host : setting.NamesWarnings) (document : Document) :
    ∀ w ∈ (renderDocument setting document).warnings, w.command ≠ none := by
  have lockstep := namesWarnings_lockstep setting.answer
  have commands : setting.CommandsRelate setting
      (fun _ evaluation _ => TexMarkup.NamesWarnings evaluation) document.walk := by
    intro name children _ each
    unfold evaluate
    cases found : setting.commander.custom name with
    | some command => exact host name command found children each
    | none => exact lockstep.builtin_alone each name
  exact lockstep.rendering document commands rfl {} nofun

/-! ## Renderings -/

/-- With the default limit, every rendering goes back to the same reading of the text. -/
theorem tryRender_eq_map (maxDepth : setting.options.maxDepth = defaultMaxDepth) (text : String) :
    tryRender setting text = (parseDocument text).map (renderDocument setting) := by
  rw [tryRender, maxDepth]

theorem tryToHtml_eq_map (text : String) :
    tryToHtml text =
      (parseDocument text).map fun document => (renderDocument .default document).content := by
  rw [tryToHtml, tryRender_eq_map rfl]
  cases parseDocument text <;> rfl

theorem render_of_error {text : String} {e : ParseError}
    (maxDepth : setting.options.maxDepth = defaultMaxDepth)
    (failed : parseDocument text = .error e) :
    render setting text = Output.ofParseError setting.options e := by
  rw [render, tryRender_eq_map maxDepth, failed]
  rfl

theorem render_of_ok {text : String} {document : Document}
    (maxDepth : setting.options.maxDepth = defaultMaxDepth)
    (parsed : parseDocument text = .ok document) :
    tryRender setting text = .ok (renderDocument setting document) ∧
      render setting text = renderDocument setting document := by
  have succeeds : tryRender setting text = .ok (renderDocument setting document) := by
    rw [tryRender_eq_map maxDepth, parsed]
    rfl
  exact ⟨succeeds, by rw [render, succeeds]⟩

/-- Checking, reading and rendering a text fail together. What fails is reported by the check
as its only finding, and shown and warned of by every rendering, with the same message; that
warning names no command. What does not fail is rendered to one and the same content, and all
of its warnings name commands. The renderings may be over any host whose commands only record
warnings that name commands. -/
theorem entryPoints_agree (text : String) :
    ((∃ d ∈ (checkMarkup text).diagnostics, d.severity = .error) ↔
      ∃ e, parseDocument text = .error e) ∧
    ((∃ e, parseDocument text = .error e) ↔ ∃ e, tryToHtml text = .error e) ∧
    (∀ setting : Setting, setting.NamesWarnings → setting.options.maxDepth = defaultMaxDepth →
      ((∃ e, tryToHtml text = .error e) ↔ ∃ w ∈ (render setting text).warnings, w.command = none)) ∧
    (∀ e, parseDocument text = .error e →
      let marker := Html.errorMarker e.message
      (checkMarkup text).diagnostics =
          [{ severity := .error, message := e.message, line := some e.line }] ∧
        toHtml text = Html.wrapParagraph marker ∧
        ∀ setting : Setting, setting.options.maxDepth = defaultMaxDepth →
          render setting text =
            ⟨if setting.options.wrapParagraphs then Html.wrapParagraph marker else marker,
              [⟨none, e.message⟩], []⟩) ∧
    ∀ document, parseDocument text = .ok document →
      ∃ output, tryRender .default text = .ok output ∧ render .default text = output ∧
        tryToHtml text = .ok output.content ∧ toHtml text = output.content ∧
        ∀ w ∈ output.warnings, w.command ≠ none := by
  have defaults := tryToHtml_eq_map text
  cases parsed : parseDocument text with
  | error e =>
    rw [parsed] at defaults
    have found := checkMarkup_of_error parsed
    refine ⟨?_, ?_, ?_, ?_, nofun⟩
    · rw [found]
      exact ⟨fun _ => ⟨e, rfl⟩, fun _ => ⟨_, List.mem_cons_self, rfl⟩⟩
    · exact ⟨fun _ => ⟨e, defaults⟩, fun _ => ⟨e, rfl⟩⟩
    · intro setting _ maxDepth
      rw [render_of_error maxDepth parsed]
      exact ⟨fun _ => ⟨_, List.mem_cons_self, rfl⟩, fun _ => ⟨e, defaults⟩⟩
    · rintro e' ⟨⟩
      refine ⟨found, ?_, fun setting maxDepth => render_of_error maxDepth parsed⟩
      rw [toHtml, defaults]
      rfl
  | ok document =>
    rw [parsed] at defaults
    have readable : ¬ ∃ e, tryToHtml text = .error e := by
      rw [defaults]
      exact nofun
    refine ⟨?_, ?_, ?_, nofun, ?_⟩
    · exact ⟨fun ⟨d, mem, isError⟩ => absurd isError (checkMarkup_of_ok parsed d mem), nofun⟩
    · exact ⟨nofun, fun failed => absurd failed readable⟩
    · intro setting host maxDepth
      -- The only warning without a command is the one about a text that cannot be read.
      rw [(render_of_ok maxDepth parsed).2]
      refine ⟨fun failed => absurd failed readable, ?_⟩
      rintro ⟨w, mem, unnamed⟩
      exact absurd unnamed (renderDocument_namesWarnings host document w mem)
    · rintro document' ⟨⟩
      have host : Setting.NamesWarnings .default := (delegates_standard {}).namesWarnings
      obtain ⟨succeeds, shown⟩ := render_of_ok (rfl : Setting.default.options.maxDepth = _) parsed
      refine ⟨_, succeeds, shown, defaults, ?_, renderDocument_namesWarnings host document⟩
      rw [toHtml, defaults]
      rfl

end Texts

/-- A backslash without a name is reported on its line, and every entry point stops at it. In
front of a host with a command of its own, an unknown command is warned of under its name. -/
theorem entryPoints_agree_templates :
    let setting : Setting := ⟨.templates [("note", "<aside>", "</aside>")], .inline⟩
    let message := "Parse error at line 2: expected a command name after '\\', found end of input"
    let unknown := "<aside><span style=\"color: red\">[unknown command nope]</span></aside>"
    setting.NamesWarnings ∧ setting.options.maxDepth = defaultMaxDepth ∧
      (checkMarkup "a\n\\").diagnostics = [{ severity := .error, message, line := some 2 }] ∧
      toHtml "a\n\\" = Html.wrapParagraph (Html.errorMarker message) ∧
      render setting "a\n\\" = ⟨Html.errorMarker message, [⟨none, message⟩], []⟩ ∧
      (render setting "\\note\x7b\\nope\x7d").content = unknown ∧
      ¬ (∃ e, tryToHtml "\\note\x7b\\nope\x7d" = .error e) ∧
      ¬ ∃ w ∈ (render setting "\\note\x7b\\nope\x7d").warnings, w.command = none := by
  intro setting message unknown
  have host : setting.NamesWarnings := (delegates_templates _ _).namesWarnings
  have failed : parseDocument "a\n\\" = .error (.missingCommandName 2 "end of input") := by
    decide +kernel
  have readable : ¬ ∃ e, tryToHtml "\\note\x7b\\nope\x7d" = .error e := by
    rintro ⟨e, unreadable⟩
    have parsed : (tryToHtml "\\note\x7b\\nope\x7d").toBool = true := by decide +kernel
    rw [unreadable] at parsed
    cases parsed
  obtain ⟨-, -, -, reported, -⟩ := entryPoints_agree "a\n\\"
  obtain ⟨found, shown, rendered⟩ := reported _ failed
  obtain ⟨-, -, together, -⟩ := entryPoints_agree "\\note\x7b\\nope\x7d"
  exact ⟨host, rfl, found, shown, rendered setting rfl, by decide +kernel, readable,
    fun unnamed => readable ((together setting host rfl).mpr unnamed)⟩

end TexMarkup
