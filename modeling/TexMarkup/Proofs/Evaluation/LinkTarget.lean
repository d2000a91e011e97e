import TexMarkup.Proofs.Html.Safety
import TexMarkup.Proofs.Html.Target
import TexMarkup.Proofs.Text.Collapse

/-!
# Link targets are vetted

Whatever is nested in whatever way, a reader of rendered text finds four kinds of
targets: addresses that have been accepted, e-mail addresses, entities of the host under
their numbers, and users of the host whom the document names. A target that is refused
leaves a marker and no link or image, whatever has computed it. How addresses are read
makes no difference to that.

## Main definitions

* `Uri.Accepted`, `IsAddress`: what targets are checked for.
* `VettedTarget`: the targets that may be found.

## Main results

* `isEmail_iff`: the check of e-mail addresses.
* `builtin_of_uri_refused`, `builtin_of_address_refused`: targets that are refused.
* `linkTargets_vetted`: the targets in rendered documents.
-/

namespace TexMarkup

open Html

/-! ## Checks -/

/-- The text is a well-formed address of a scheme that links may use. -/
def Uri.Accepted [AddressReader] (uri : String) : Prop :=
  ∃ scheme, AddressReader.scheme? uri = some scheme ∧ scheme ∈ Uri.acceptedSchemes

/-- The text holds one at sign with something on both sides, and no blanks. -/
def IsAddress (text : String) : Prop :=
  ∃ user host, text = user ++ "@" ++ host ∧ user ≠ "" ∧ host ≠ "" ∧ '@' ∉ user.toList ∧
    '@' ∉ host.toList ∧ ∀ c ∈ (user ++ host).toList, isBlank c = false

variable {options : Options} {setting : Setting} {document : Document} {name text uri : String}
  {clauses rest : List Clause} {first : Clause} {s : Session}

theorem isEmail_iff : isEmail text = true ↔ IsAddress text := by
  constructor
  · intro isAddress
    rw [isEmail] at isAddress
    split at isAddress
    · cases isAddress
    · rename_i c host found
      -- The check cuts the text at its first at sign and wants no other one after it.
      obtain ⟨rfl, outside, parts⟩ := of_dropWhile_eq_cons found
      generalize text.toList.takeWhile (· != '@') = user at isAddress outside parts
      simp only [Bool.and_eq_true, Bool.not_eq_true', List.isEmpty_eq_false_iff,
        List.any_eq_false, List.contains_eq_mem, decide_eq_false_iff_not] at isAddress
      obtain ⟨⟨⟨ofUser, ofHost⟩, outside'⟩, noBlank⟩ := isAddress
      refine ⟨String.ofList user, String.ofList host, ?_, by simpa, by simpa, by simpa, by simpa,
        fun c mem => ?_⟩
      · rw [← String.toList_inj, parts]
        simp
      · have mem' : c ∈ text.toList := by
          rw [parts]
          simp only [String.toList_append, String.toList_ofList, List.mem_append] at mem
          simp only [List.mem_append, List.mem_cons]
          tauto
        simpa using noBlank c mem'
  · rintro ⟨user, host, rfl, ofUser, ofHost, outside, outside', noBlank⟩
    have chars : (user ++ "@" ++ host).toList = user.toList ++ '@' :: host.toList := by simp
    obtain ⟨taken, left⟩ := takeWhile_dropWhile_of_not_mem outside host.toList
    have noBlank' : (user.toList ++ '@' :: host.toList).any isBlank = false := by
      rw [List.any_append, List.any_cons, List.any_eq_false.mpr, List.any_eq_false.mpr]
      · decide
      · exact fun c mem => by simp [noBlank c (by simp [mem])]
      · exact fun c mem => by simp [noBlank c (by simp [mem])]
    rw [isEmail]
    simp only [chars, taken, left, noBlank']
    simp [ofUser, ofHost, outside']

section Vetting

variable [AddressReader]

theorem checkedUri_eq_ok {target : String} (accepted : checkedUri name uri = .ok target) :
    Uri.Accepted uri ∧ target = escape uri := by
  rw [checkedUri] at accepted
  split at accepted
  · rename_i scheme found
    split at accepted
    · rename_i known
      refine ⟨⟨scheme, found, ?_⟩, (Except.ok.inj accepted).symm⟩
      simpa [Uri.isAcceptedScheme] using known
    · cases accepted
  · cases accepted

theorem checkedUri_of_refused (refused : ¬ Uri.Accepted uri) (name : String) :
    checkedUri name uri = .error (.invalidUri name uri) := by
  rw [checkedUri]
  split
  · rename_i scheme found
    have unknown : ¬ Uri.isAcceptedScheme scheme = true := by
      intro known
      exact refused ⟨scheme, found, by simpa [Uri.isAcceptedScheme] using known⟩
    rw [if_neg unknown]
  · rfl

/-! ## Targets that are refused -/

/-- A link or an image whose target is refused leaves a marker, whatever has computed
the target, and renders nothing after it. -/
theorem builtin_of_uri_refused [SpecialFunctions] {argument : String} {s' : Session}
    (targeted : lookupCommand name = some .link ∨ lookupCommand name = some .image)
    (split : splitFirstArgument clauses = some (first, rest))
    (computed : argumentText first s = (argument, s')) (refused : ¬ Uri.Accepted (trim argument)) :
    builtin setting name clauses s = fail name (.invalidUri name (trim argument)) s' := by
  have required : (requiredUri name clauses).run s =
      (.error (.invalidUri name (trim argument)), s') := by
    rw [requiredUri, split]
    show ((liftM (argumentText first) : Attempt String) >>= fun uri =>
      Attempt.ofExcept (checkedUri name (trim uri)) >>= fun target => pure (target, rest)).run s = _
    rw [Attempt.run_lift_bind computed, checkedUri_of_refused refused]
    rfl
  -- Links and images ask for their target first, and what they do with it is left out.
  rw [builtin]
  rcases targeted with found | found <;> rw [found]
  · exact Attempt.orMarker_bind_of_error required _ name
  · exact Attempt.orMarker_bind_of_error required _ name

/-- So does a link to an e-mail address that is none. -/
theorem builtin_of_address_refused [SpecialFunctions] {argument : String} {s' : Session}
    (targeted : lookupCommand name = some .mailto)
    (split : splitFirstArgument clauses = some (first, rest))
    (computed : argumentText first s = (argument, s')) (refused : ¬ IsAddress argument) :
    builtin setting name clauses s = fail name (.invalidEmail argument) s' := by
  have failed : (renderMailto name clauses).run s = (.error (.invalidEmail argument), s') := by
    rw [renderMailto, split]
    show ((liftM (argumentText first) : Attempt String) >>= fun address => _).run s = _
    rw [Attempt.run_lift_bind computed, if_neg (mt isEmail_iff.mp refused)]
    rfl
  exact builtin_of_run targeted failed

/-! ## Targets that are found -/

/-- The targets that may be found in a rendered document. -/
inductive VettedTarget (options : Options) (document : Document) : String → Prop
  /-- An address of a scheme that links may use, without blanks at its edges. -/
  | uri {uri : String} : trim uri = uri → Uri.Accepted uri →
    VettedTarget options document (escape uri)
  | mailto {address : String} : IsAddress address →
    VettedTarget options document ("mailto:" ++ escape address)
  /-- An entity of the host. -/
  | entity (kind : EntityKind) {id : Nat} : id < 2 ^ 64 →
    VettedTarget options document
      (options.baseUrl ++ "/" ++ kind.plural ++ "/" ++ toString id ++ kind.view)
  /-- A user of the host whom the document names. -/
  | user {node : Node} {name : String} : node ∈ document.walk → node.NamesUser name →
    VettedTarget options document (options.baseUrl ++ "/users/" ++ escape name)

/-- The pieces of a rendered document have vetted targets, if links to the host can be
quoted. -/
theorem outputInvariant_vetted (document : Document) (quotable : Quotable options.baseUrl) :
    OutputInvariant options (Targets (VettedTarget options document))
      fun name => ∃ node ∈ document.walk, node.NamesUser name := by
  have pieces := elementClosed_targets (VettedTarget options document)
  refine pieces.outputInvariant ?trimEnd ?link ?image ?mailto ?entity ?user
  case trimEnd => exact fun _ h => h.trimEnd
  case link =>
    intro name uri target html accepted h
    obtain ⟨known, rfl⟩ := checkedUri_eq_ok accepted
    exact .anchor (.uri (trim_trim uri) known) (tagFree_escape _).quotable h
  case image =>
    intro name uri source description accepted
    obtain ⟨known, rfl⟩ := checkedUri_eq_ok accepted
    exact .image (.uri (trim_trim uri) known) (tagFree_escape _).quotable
      (tagFree_escape _).not_mem.1
  case mailto =>
    intro address isAddress
    have scheme : Quotable "mailto:" := by decide
    exact .anchor (.mailto (isEmail_iff.mp isAddress)) (scheme.append (tagFree_escape _).quotable)
      (pieces.escape address)
  case entity =>
    intro kind id small
    have slash : Quotable "/" := by decide
    obtain ⟨plural, view, -⟩ := tagFree_entity kind
    have target := ((((quotable.append slash).append plural.quotable).append slash).append
      (tagFree_toString id).quotable).append view.quotable
    exact .anchor (.entity kind small) target (pieces.text (tagFree_entityLabel kind id))
  case user =>
    rintro name ⟨node, mem, names⟩
    have users : Quotable "/users/" := by decide
    exact .anchor (.user mem names) ((quotable.append users).append (tagFree_escape name).quotable)
      (pieces.escape name)

/-- Every target that a reader finds in a rendered document is vetted, whatever is nested
in it. A link or an image whose target is refused leaves a marker in its place, and so
does a link to an e-mail address that is none, whatever has computed the argument; a
marker has no tags but those around its message. -/
theorem linkTargets_vetted [SpecialFunctions] {options : Options}
    (noTag : '<' ∉ options.baseUrl.toList) (quoted : '"' ∉ options.baseUrl.toList) :
    (∀ document value, IsTarget (renderDocument ⟨.standard, options⟩ document).content value →
        VettedTarget options document value) ∧
      (∀ name clauses first rest s, splitFirstArgument clauses = some (first, rest) →
        let (argument, s') := argumentText first s
        (lookupCommand name = some .link ∨ lookupCommand name = some .image →
          ¬ Uri.Accepted (trim argument) →
          builtin ⟨.standard, options⟩ name clauses s =
            fail name (.invalidUri name (trim argument)) s') ∧
        (lookupCommand name = some .mailto → ¬ IsAddress argument →
          builtin ⟨.standard, options⟩ name clauses s =
            fail name (.invalidEmail argument) s')) ∧
      ∀ (name : String) (e : CommandError) (s : Session),
        tags (fail name e s).1.toList = ["span style=\"color: red\"".toList, "/span".toList] := by
  refine ⟨fun document value found => ?_, fun name clauses first rest s split => ?_,
    fun name e s => tags_errorMarker e.message⟩
  · have pieces := outputInvariant_vetted document ⟨noTag, quoted⟩
    have whole := pieces.renderDocument_of_named document fun node mem user names =>
      ⟨node, mem, names⟩
    exact whole.of_isTarget found
  · refine ⟨fun targeted refused => ?_, fun targeted refused => ?_⟩
    · exact builtin_of_uri_refused targeted split rfl refused
    · exact builtin_of_address_refused targeted split rfl refused

end Vetting

/-- A link with other links in its description, and a link whose target is computed by a
reference, which is refused. -/
theorem linkTargets_vetted_nested :
    let setting : Setting := ⟨.standard, { baseUrl := "https://h", wrapParagraphs := false }⟩
    let document := Document.mk [⟨[.command "url" [.text " irc:\"a\"",
      .command "mailto" [.text "a@b"], .command "user" [.text "\"c"]]]⟩]
    let reference := "<a href=\"https://h/users/&quot;c\">&quot;c</a>"
    let content := (renderDocument setting document).content
    ('<' ∉ setting.options.baseUrl.toList ∧ '"' ∉ setting.options.baseUrl.toList) ∧
      content =
        "<a href=\"irc:&quot;a&quot;\"><a href=\"mailto:a@b\">a@b</a>" ++ reference ++ "</a>" ∧
      (∀ value, IsTarget content value → VettedTarget setting.options document value) ∧
      builtin setting "link" (Node.clauses setting [.command "user" [.text "\"c"]]) {} =
        fail "link" (.invalidUri "link" reference) {} := by
  intro setting document reference content
  have plain : '<' ∉ setting.options.baseUrl.toList ∧ '"' ∉ setting.options.baseUrl.toList := by
    decide
  obtain ⟨vetted, refusal, -⟩ := linkTargets_vetted plain.1 plain.2
  refine ⟨plain, by decide +kernel, vetted document, ?_⟩
  have computed : (reference, ({} : Session)) =
      Node.render setting (.command "user" [.text "\"c"]) {} := by
    decide +kernel
  have noBlanks : trim reference = reference := by decide +kernel
  have noAddress : ¬ Uri.Accepted reference := by
    rintro ⟨scheme, found, -⟩
    have none : Uri.scheme? reference = none := by decide +kernel
    exact nomatch none.symm.trans found
  have outcome := refusal "link" (Node.clauses setting [.command "user" [.text "\"c"]]) _ _ {} rfl
  simp only [argumentText, ← computed, noBlanks] at outcome
  exact outcome.1 (.inl (by decide)) noAddress

end TexMarkup
