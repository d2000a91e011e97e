import Mathlib.Data.Set.Insert
import TexMarkup.Proofs.Evaluation.Lockstep

/-!
# Where the host is consulted

A host takes part in the rendering of a document only through the questions that are put to
it and the commands that it brings. So its other answers make no difference, a host that
answers with the plain links makes none either, and neither do commands that do not occur.

## Main definitions

* `Resolver.answer`, `Resolver.plain`: all answers of a host, and the host with plain links.
* `AgreeWhile`: two evaluations are the same as long as only certain questions are asked.
* `UpToLookups`: two evaluations are the same except for their questions.

## Main results

* `renderDocument_consults`: answers, plain links and commands of a host.
-/

namespace TexMarkup

/-- The answers of a host. -/
def Resolver.answer (resolver : Resolver) : Reference → Option String
  | .entity kind id => resolver.entity kind id
  | .user name => resolver.user name

/-- The host that answers every question with the plain link. -/
def Resolver.plain (options : Options) : Resolver where
  entity kind id := some (plainEntityLink options kind id)
  user name := some (plainUserLink options name)

theorem answer_actionable (resolver : Resolver) (options : Options) :
    Setting.answer ⟨.actionable resolver, options⟩ = resolver.answer := by
  funext r
  cases r <;> rfl

variable {answer answer' : Reference → Option String} {options : Options} {nodes : List Node}

/-! ## Answers that are not asked for -/

/-- The first evaluation forgets no question, and if it ends with none but these asked, then
the second one does the same. -/
def AgreeWhile (asked : List Reference) (α : Type) (evaluation evaluation' : Eval α) : Prop :=
  ∀ s, s.lookups ⊆ (evaluation s).2.lookups ∧
    ((evaluation s).2.lookups ⊆ asked → evaluation' s = evaluation s)

theorem agreeWhile_lockstep {asked : List Reference} (agree : ∀ r ∈ asked, answer r = answer' r) :
    DeepLockstep answer answer' (AgreeWhile asked) where
  pure x s := ⟨List.Subset.refl _, fun _ => rfl⟩
  bind {α β evaluation evaluation' next next'} h h' := by
    intro s
    obtain ⟨kept, same⟩ := h s
    obtain ⟨kept', same'⟩ := h' (evaluation s).1 (evaluation s).2
    refine ⟨List.Subset.trans kept kept', fun within => ?_⟩
    -- What has been asked at the end contains what has been asked in between.
    show next' (evaluation' s).1 (evaluation' s).2 = next (evaluation s).1 (evaluation s).2
    rw [same (List.Subset.trans kept' within)]
    exact same' within
  fail command e s := ⟨List.Subset.refl _, fun _ => rfl⟩
  ask r := by
    intro s
    refine ⟨List.subset_append_left _ _, fun within => ?_⟩
    have isAsked : r ∈ asked := within (List.mem_append_right s.lookups List.mem_cons_self)
    show (answer' r, _) = (answer r, _)
    rw [agree r isAsked]
  nested limit name {command command'} h := by
    intro s
    by_cases deep : limit ≤ s.depth
    · rw [nested, nested, if_pos deep, if_pos deep]
      exact ⟨List.Subset.refl _, fun _ => rfl⟩
    · rw [nested, nested, if_neg deep, if_neg deep]
      obtain ⟨kept, same⟩ := h { s with depth := s.depth + 1 }
      exact ⟨kept, fun within => by rw [same within]⟩

/-! ## Answers that change nothing -/

/-- The session without the questions. -/
def Session.unasked (s : Session) : Session :=
  { s with lookups := [] }

/-- In sessions that differ in nothing but the questions, the two evaluations give the same,
and the sessions still differ in nothing else afterwards. -/
def UpToLookups (α : Type) (evaluation evaluation' : Eval α) : Prop :=
  ∀ s s' : Session, s.unasked = s'.unasked →
    (evaluation s).1 = (evaluation' s').1 ∧ (evaluation s).2.unasked = (evaluation' s').2.unasked

theorem upToLookups_lockstep : DeepLockstep answer answer UpToLookups where
  pure x s s' same := ⟨rfl, same⟩
  bind {α β evaluation evaluation' next next'} h h' := by
    intro s s' same
    obtain ⟨given, after⟩ := h s s' same
    have later := h' (evaluation s).1 _ _ after
    show (next (evaluation s).1 (evaluation s).2).1 =
        (next' (evaluation' s').1 (evaluation' s').2).1 ∧
      (next (evaluation s).1 (evaluation s).2).2.unasked =
        (next' (evaluation' s').1 (evaluation' s').2).2.unasked
    rwa [← given]
  fail command e s s' same := by
    obtain ⟨depth, warnings, -⟩ := Session.mk.inj same
    exact ⟨rfl, by simp only [fail, Session.unasked, depth, warnings]⟩
  ask r s s' same := ⟨rfl, same⟩
  nested limit name {command command'} h := by
    intro s s' same
    obtain ⟨depth, warnings, -⟩ := Session.mk.inj same
    by_cases deep : limit ≤ s.depth
    · rw [nested, nested, if_pos deep, if_pos (depth ▸ deep)]
      exact ⟨rfl, by simp only [fail, Session.unasked, depth, warnings]⟩
    · have deeper : Session.unasked { s with depth := s.depth + 1 } =
          Session.unasked { s' with depth := s'.depth + 1 } := by
        simp only [Session.unasked, depth, warnings]
      obtain ⟨given, after⟩ := h _ _ deeper
      rw [nested, nested, if_neg deep, if_neg (depth ▸ deep)]
      exact ⟨given, congrArg (fun s : Session => { s with depth := s.depth - 1 }) after⟩

theorem entityReference_upToLookups (kind : EntityKind) (clauses clauses' : List Clause)
    (first : firstText? clauses = firstText? clauses') :
    UpToLookups _ (entityReference ⟨.standard, options⟩ kind clauses).run
      (entityReference ⟨.actionable (.plain options), options⟩ kind clauses').run := by
  intro s s' same
  simp only [entityReference, first]
  cases firstText? clauses' with
  | none => exact ⟨rfl, same⟩
  | some text =>
    simp only
    cases entityId? text with
    | none => exact ⟨rfl, same⟩
    | some id => exact ⟨rfl, same⟩

theorem userReference_upToLookups (clauses clauses' : List Clause)
    (first : firstText? clauses = firstText? clauses') :
    UpToLookups _ (userReference ⟨.standard, options⟩ clauses).run
      (userReference ⟨.actionable (.plain options), options⟩ clauses').run := by
  intro s s' same
  simp only [userReference, first]
  cases firstText? clauses' <;> exact ⟨rfl, same⟩

section Documents

variable [AddressReader] [SpecialFunctions]

/-- Only references look at the host. -/
theorem Handler.run_eq_of_noReference {handler : Handler}
    (noEntity : ∀ kind, handler ≠ .entity kind) (noUser : handler ≠ .user)
    (setting setting' : Setting) (name : String) (clauses : List Clause) :
    handler.run setting name clauses = handler.run setting' name clauses := by
  cases handler with
  | entity kind => exact absurd rfl (noEntity kind)
  | user => exact absurd rfl noUser
  | _ => rfl

/-- A host with the plain links is like none, except for its questions. -/
theorem builtin_upToLookups {render render' : Node → Eval String}
    (each : ∀ node ∈ nodes, UpToLookups String (render node) (render' node)) (name : String) :
    let setting' : Setting := ⟨.actionable (.plain options), options⟩
    UpToLookups String
      (builtin ⟨.standard, options⟩ name (Access.clauses ⟨answer, render⟩ nodes))
      (builtin setting' name (Access.clauses ⟨answer', render'⟩ nodes)) := by
  intro setting'
  have lockstep : DeepLockstep setting'.answer setting'.answer UpToLookups := upToLookups_lockstep
  have first : firstText? (Access.clauses ⟨answer, render⟩ nodes) =
      firstText? (Access.clauses ⟨answer', render'⟩ nodes) := by
    rw [firstText?_clauses, firstText?_clauses]
  by_cases isEntity : ∃ kind, lookupCommand name = some (.entity kind)
  · obtain ⟨kind, found⟩ := isEntity
    simp only [builtin, found]
    exact lockstep.orMarker (entityReference_upToLookups kind _ _ first) name
  by_cases isUser : lookupCommand name = some .user
  · simp only [builtin, isUser]
    exact lockstep.orMarker (userReference_upToLookups _ _ first) name
  -- Everything else is the same command with and without a host.
  have unhosted (clauses : List Clause) :
      builtin ⟨.standard, options⟩ name clauses = builtin setting' name clauses := by
    cases found : lookupCommand name with
    | none => simp only [builtin, found]
    | some handler =>
      simp only [builtin, found]
      rw [Handler.run_eq_of_noReference
        (fun kind same => isEntity ⟨kind, found.trans (congrArg some same)⟩)
        (fun same => isUser (found.trans (congrArg some same)))]
  rw [unhosted]
  exact lockstep.builtin rfl rfl each name

/-! ## Documents -/

/-- The answers to other questions make no difference. -/
theorem renderDocument_of_agree {resolver resolver' : Resolver} {document : Document}
    (agree : ∀ r ∈ (renderDocument ⟨.actionable resolver, options⟩ document).lookups,
      resolver.answer r = resolver'.answer r) :
    renderDocument ⟨.actionable resolver', options⟩ document =
      renderDocument ⟨.actionable resolver, options⟩ document := by
  let setting : Setting := ⟨.actionable resolver, options⟩
  let setting' : Setting := ⟨.actionable resolver', options⟩
  have lockstep : DeepLockstep setting.answer setting'.answer
      (AgreeWhile (renderDocument setting document).lookups) := by
    rw [answer_actionable, answer_actionable]
    exact agreeWhile_lockstep agree
  have commands : setting.CommandsRelate setting'
      (AgreeWhile (renderDocument setting document).lookups) document.walk := by
    intro name children _ each
    rw [Node.clauses_eq, Node.clauses_eq]
    exact lockstep.builtin rfl rfl each name
  -- The questions at the end of the first rendering are all that it asks.
  have same := (lockstep.rendering document commands rfl {}).2 (List.Subset.refl _)
  rw [renderDocument_eq_ofEval, Output.ofEval, same]
  rfl

/-- A host with the plain links is like none, except for its questions. -/
theorem renderDocument_plain (options : Options) (document : Document) :
    let plain := renderDocument ⟨.actionable (.plain options), options⟩ document
    let standard := renderDocument ⟨.standard, options⟩ document
    plain.content = standard.content ∧ plain.warnings = standard.warnings := by
  let setting : Setting := ⟨.standard, options⟩
  let setting' : Setting := ⟨.actionable (.plain options), options⟩
  have lockstep : DeepLockstep setting'.answer setting'.answer UpToLookups := upToLookups_lockstep
  have commands : setting.CommandsRelate setting' UpToLookups document.walk := by
    intro name children _ each
    rw [Node.clauses_eq, Node.clauses_eq]
    exact builtin_upToLookups each name
  obtain ⟨content, after⟩ := lockstep.rendering document commands rfl {} {} rfl
  obtain ⟨-, warnings, -⟩ := Session.mk.inj after
  exact ⟨content.symm, warnings.symm⟩

/-- Commands of a host that do not occur make no difference. -/
theorem renderDocument_of_absent {custom : String → Option (List Clause → Eval String)}
    {document : Document}
    (absent : ∀ name children, .command name children ∈ document.walk → custom name = none) :
    renderDocument ⟨{ custom }, options⟩ document =
      renderDocument ⟨.standard, options⟩ document := by
  let setting : Setting := ⟨{ custom }, options⟩
  let setting' : Setting := ⟨.standard, options⟩
  have lockstep : DeepLockstep setting.answer setting.answer fun _ e e' => e = e' :=
    { pure := fun _ => rfl
      bind := fun same same' => by rw [same, funext same']
      fail := fun _ _ => rfl
      ask := fun _ => rfl
      nested := fun limit name _ _ same => congrArg (nested limit name) same }
  have commands : setting.CommandsRelate setting' (fun _ e e' => e = e') document.walk := by
    intro name children mem each
    have own : evaluate setting name (Node.clauses setting children) =
        builtin setting name (Node.clauses setting children) := by
      rw [evaluate, show setting.commander.custom name = none from absent name children mem]
    have hosted : Node.clauses setting children = Node.clauses setting' children := by
      rw [Node.clauses_eq, Node.clauses_eq]
      exact List.map_congr_left fun child mem => congrArg (Clause.mk child) (each child mem)
    rw [own, hosted]
    exact builtin_eq_of_resolver_eq rfl rfl name _
  rw [renderDocument_eq_ofEval, lockstep.rendering document commands rfl]
  rfl

/-- Rendering a document consults the host only where it must. Two hosts that answer alike
whatever the first one is asked show the same, warn of the same and are asked the same. A host
that always answers with the plain link shows and warns of what no host does. And a host that
brings commands under other names than those that occur makes no difference at all. -/
theorem renderDocument_consults (options : Options) (document : Document) :
    (∀ resolver resolver' : Resolver,
      let output := renderDocument ⟨.actionable resolver, options⟩ document
      (∀ r ∈ output.lookups, resolver.answer r = resolver'.answer r) →
        renderDocument ⟨.actionable resolver', options⟩ document = output) ∧
    (let plain := renderDocument ⟨.actionable (.plain options), options⟩ document
      let standard := renderDocument ⟨.standard, options⟩ document
      plain.content = standard.content ∧ plain.warnings = standard.warnings) ∧
    ∀ (names : Set String) (custom : String → Option (List Clause → Eval String)),
      (∀ name ∉ names, custom name = none) →
        (∀ name children, .command name children ∈ document.walk → name ∉ names) →
          renderDocument ⟨{ custom }, options⟩ document =
            renderDocument ⟨.standard, options⟩ document := by
  refine ⟨fun resolver resolver' => renderDocument_of_agree,
    renderDocument_plain options document, ?_⟩
  intro names custom others occurring
  exact renderDocument_of_absent fun name children mem => others name (occurring name children mem)

end Documents

/-- An answer decides which question comes next: the host is asked about one of two users, and
what it would have said of the other one does not matter. Nor does a command of the host that
does not occur. -/
theorem renderDocument_consults_branch :
    let document : Document := ⟨[⟨[.command "if" [.command "tag-id" [.text "1"], .space,
      .command "user" [.text "ann"], .space, .command "user" [.text "bob"]]]⟩]⟩
    let resolver : Resolver :=
      ⟨fun _ _ => some "true", fun name => if name = "ann" then some "Ann" else none⟩
    let resolver' : Resolver :=
      ⟨fun _ _ => some "true", fun name => if name = "ann" then some "Ann" else some "Bob"⟩
    let output := renderDocument ⟨.actionable resolver, {}⟩ document
    let note : Commander := .templates [("note", "<aside>", "</aside>")]
    output = ⟨"<p>\nAnn\n</p>\n", [], [.entity .tag 1, .user "ann"]⟩ ∧
      resolver.answer (.user "bob") ≠ resolver'.answer (.user "bob") ∧
      renderDocument ⟨.actionable resolver', {}⟩ document = output ∧
      (renderDocument ⟨.actionable (.plain {}), {}⟩ document).content =
        (renderDocument ⟨.standard, {}⟩ document).content ∧
      renderDocument ⟨note, {}⟩ document = renderDocument ⟨.standard, {}⟩ document := by
  intro document resolver resolver' output note
  have given : output = ⟨"<p>\nAnn\n</p>\n", [], [.entity .tag 1, .user "ann"]⟩ := by
    decide +kernel
  have agree : ∀ r ∈ output.lookups, resolver.answer r = resolver'.answer r := by
    rw [given]
    decide
  have others : ∀ name ∉ ({"note"} : Set String), note.custom name = none := by
    intro name other
    have absent : (name == "note") = false := beq_false_of_ne other
    simp only [note, Commander.templates, List.lookup_cons, absent, List.lookup_nil,
      Option.map_none]
  have occurring : ∀ name children, .command name children ∈ document.walk →
      name ∉ ({"note"} : Set String) := by
    intro name children mem
    simp only [document, Document.walk, List.flatMap_cons, List.flatMap_nil, List.append_nil,
      Node.walk, List.cons_append, List.nil_append] at mem
    rintro rfl
    simp at mem
  obtain ⟨sameAnswers, plain, sameCommands⟩ := renderDocument_consults {} document
  exact ⟨given, by decide, sameAnswers resolver resolver' agree, plain.1,
    sameCommands {"note"} note.custom others occurring⟩

end TexMarkup
