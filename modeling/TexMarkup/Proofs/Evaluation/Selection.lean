import TexMarkup.Proofs.Evaluation.Host
import TexMarkup.Proofs.Evaluation.Result

/-!
# Clauses that are not selected

A form that chooses renders its tests up to the decision and the clause that it selects.
What the other clauses are does not matter: they can be any trees at all, and what comes
after the decision can be any number of them, without a difference in the text, the
warnings or the questions to the host.

## Main definitions

* `Clause.verdict`: what a test says.
* `CondAlike`, `CaseAlike`, `SelectsAlike`: clauses among which a form selects the same.
* `Unmatched`: pairs none of which matches.

## Main results

* `renderControl_run_congr`: a form does the same with clauses among which it selects the same.
* `control_ignores_unselected`: so does its command, wherever it stands.
-/

namespace TexMarkup

/-- What a test says when it is rendered: the truth value as which it is read, if it is
one. -/
def Clause.verdict (test : Clause) (s : Session) : Option Bool :=
  match trim (test.render s).1 with
  | "true" => some true
  | "false" => some false
  | _ => none

/-- The state after the clause has been rendered. -/
def Clause.after (clause : Clause) (s : Session) : Session :=
  (clause.render s).2

/-! ## Selecting the same -/

/-- Clauses in pairs of a test and a body among which the body after the first true test
is the same. -/
inductive CondAlike : Session → List Clause → List Clause → Prop where
  /-- Nothing is replaced. -/
  | same (s : Session) (clauses : List Clause) : CondAlike s clauses clauses
  /-- After the pair that is selected anything may come. -/
  | selected {s : Session} {test : Clause} (isTrue : test.verdict s = some true) (body : Clause)
      (tail tail' : List Clause) : CondAlike s (test :: body :: tail) (test :: body :: tail')
  /-- After a test that is no truth value anything may come. -/
  | undecided {s : Session} {test : Clause} (noVerdict : test.verdict s = none)
      (tail tail' : List Clause) : CondAlike s (test :: tail) (test :: tail')
  /-- The body of a pair whose test is false may be any clause. -/
  | passed {s : Session} {test : Clause} (isFalse : test.verdict s = some false)
      (body body' : Clause) {clauses clauses' : List Clause}
      (alike : CondAlike (test.after s) clauses clauses') :
      CondAlike s (test :: body :: clauses) (test :: body' :: clauses')

/-- Clauses in pairs of a key and a body among which the body after the first key that
renders to the value is the same. -/
inductive CaseAlike (value : String) : Session → List Clause → List Clause → Prop where
  /-- Nothing is replaced; a clause without a partner is one of these. -/
  | same (s : Session) (clauses : List Clause) : CaseAlike value s clauses clauses
  /-- After the pair that is selected anything may come, also in place of a clause without
  a partner. -/
  | matched {s : Session} {key : Clause} (isValue : (key.render s).1 = value) (body : Clause)
      (tail tail' : List Clause) : CaseAlike value s (key :: body :: tail) (key :: body :: tail')
  /-- The body of a pair whose key does not match may be any clause. -/
  | passed {s : Session} {key : Clause} (isOther : (key.render s).1 ≠ value)
      (body body' : Clause) {clauses clauses' : List Clause}
      (alike : CaseAlike value (key.after s) clauses clauses') :
      CaseAlike value s (key :: body :: clauses) (key :: body' :: clauses')

/-- Pairs of a key and a body, none of which matches the value, and the state after their
keys have been rendered. -/
inductive Unmatched (value : String) : Session → List Clause → Session → Prop where
  | nil (s : Session) : Unmatched value s [] s
  | cons {s s' : Session} {key : Clause} (isOther : (key.render s).1 ≠ value) (body : Clause)
      {pairs : List Clause} (others : Unmatched value (key.after s) pairs s') :
      Unmatched value s (key :: body :: pairs) s'

/-- Clauses among which a form selects the same when it is begun in the state. Those that
it does not select have been replaced. -/
inductive SelectsAlike : ControlForm → Session → List Clause → List Clause → Prop where
  /-- Nothing is replaced. -/
  | same (form : ControlForm) (s : Session) (clauses : List Clause) :
      SelectsAlike form s clauses clauses
  /-- A comment selects nothing. -/
  | comment (s : Session) (clauses clauses' : List Clause) :
      SelectsAlike .comment s clauses clauses'
  | first (s : Session) (clause : Clause) (tail tail' : List Clause) :
      SelectsAlike .first s (clause :: tail) (clause :: tail')
  | last (s : Session) (clause : Clause) (front front' : List Clause) :
      SelectsAlike .last s (front ++ [clause]) (front' ++ [clause])
  | branchTrue {s : Session} {test : Clause} (isTrue : test.verdict s = some true) (body : Clause)
      (tail tail' : List Clause) :
      SelectsAlike .branch s (test :: body :: tail) (test :: body :: tail')
  /-- A false test selects the third clause, if there is one. -/
  | branchFalse {s : Session} {test : Clause} (isFalse : test.verdict s = some false)
      (body body' : Clause) {tail tail' : List Clause} (third : tail.head? = tail'.head?) :
      SelectsAlike .branch s (test :: body :: tail) (test :: body' :: tail')
  | branchUndecided {s : Session} {test : Clause} (noVerdict : test.verdict s = none)
      (tail tail' : List Clause) : SelectsAlike .branch s (test :: tail) (test :: tail')
  | unlessNotFalse {s : Session} {test : Clause} (notFalse : test.verdict s ≠ some false)
      (tail tail' : List Clause) : SelectsAlike .unless s (test :: tail) (test :: tail')
  | unlessFalse {s : Session} {test : Clause} (isFalse : test.verdict s = some false)
      (body : Clause) (tail tail' : List Clause) :
      SelectsAlike .unless s (test :: body :: tail) (test :: body :: tail')
  | whenNotTrue {s : Session} {test : Clause} (notTrue : test.verdict s ≠ some true)
      (tail tail' : List Clause) : SelectsAlike .when s (test :: tail) (test :: tail')
  | cond {s : Session} {clauses clauses' : List Clause} (alike : CondAlike s clauses clauses') :
      SelectsAlike .cond s clauses clauses'
  /-- The pairs are compared with what the first clause renders to. -/
  | case {s : Session} {subject : Clause} {clauses clauses' : List Clause}
      (alike : CaseAlike (subject.render s).1 (subject.after s) clauses clauses') :
      SelectsAlike .case s (subject :: clauses) (subject :: clauses')

/-! ## Forms -/

section Forms

variable {name value : String} {form : ControlForm} {s s' : Session}
variable {clauses clauses' : List Clause}

theorem truth_run (name : String) (test : Clause) (s : Session) :
    (truth name test).run s =
      (match test.verdict s with
        | some b => .ok b
        | none => .error (.notBoolean name (test.render s).1),
      test.after s) := by
  have rendered (next : String → Attempt Bool) :
      ((liftM test.render : Attempt String) >>= next).run s =
        (next (test.render s).1).run (test.after s) :=
    Attempt.run_lift_bind rfl next
  rw [truth, rendered, Clause.verdict]
  generalize trim (test.render s).1 = said
  split
  · rfl
  · rfl
  · -- The verdict goes by the same two refusals.
    simp only
    rfl

/-- What is done after a test goes by its verdict; without one the attempt has failed. -/
theorem truth_bind_run {α : Type} (name : String) (test : Clause) (next : Bool → Attempt α)
    (s : Session) :
    (truth name test >>= next).run s =
      match test.verdict s with
      | some b => (next b).run (test.after s)
      | none => (.error (.notBoolean name (test.render s).1), test.after s) := by
  rw [ExceptT.run_bind, Eval.bind_of_eq (truth_run name test s)]
  cases test.verdict s <;> rfl

theorem renderCond_run_congr (alike : CondAlike s clauses clauses') :
    (renderCond name clauses).run s = (renderCond name clauses').run s := by
  induction alike with
  | same s clauses => rfl
  | selected isTrue body tail tail' =>
    rw [renderCond, renderCond, truth_bind_run, truth_bind_run, isTrue]
    rfl
  | @undecided s test noVerdict tail tail' =>
    -- Whether the test has a body makes no difference, since the test fails first.
    have failed (tail : List Clause) : (renderCond name (test :: tail)).run s =
        (.error (.notBoolean name (test.render s).1), test.after s) := by
      cases tail with
      | nil => rw [renderCond, truth_bind_run, noVerdict]
      | cons body tail => rw [renderCond, truth_bind_run, noVerdict]
    rw [failed, failed]
  | passed isFalse body body' alike ih =>
    rw [renderCond, renderCond, truth_bind_run, truth_bind_run, isFalse]
    exact ih

theorem renderCase_cons_run (value : String) (key body : Clause) (rest : List Clause)
    (s : Session) :
    renderCase value (key :: body :: rest) s =
      if (key.render s).1 = value then body.render (key.after s)
      else renderCase value rest (key.after s) := by
  rw [renderCase]
  show (if (key.render s).1 = value then body.render else renderCase value rest) (key.after s) = _
  split <;> rfl

theorem renderCase_congr (alike : CaseAlike value s clauses clauses') :
    renderCase value clauses s = renderCase value clauses' s := by
  induction alike with
  | same s clauses => rfl
  | matched isValue body tail tail' =>
    rw [renderCase_cons_run, renderCase_cons_run, if_pos isValue, if_pos isValue]
  | passed isOther body body' alike ih =>
    rw [renderCase_cons_run, renderCase_cons_run, if_neg isOther, if_neg isOther, ih]

/-- A clause without a partner is selected where no pair before it matches. -/
theorem renderCase_of_unmatched (unmatched : Unmatched value s clauses s') (default : Clause) :
    renderCase value (clauses ++ [default]) s = default.render s' := by
  induction unmatched with
  | nil s => rfl
  | cons isOther body others ih =>
    rw [List.cons_append, List.cons_append, renderCase_cons_run, if_neg isOther, ih]

/-- A case compares with what its subject renders to, and does not fail by itself. -/
theorem subject_bind_run (subject : Clause) (clauses : List Clause) (s : Session) :
    (liftM subject.render >>= fun value =>
        liftM (renderCase value clauses) : Attempt String).run s =
      (.ok (renderCase (subject.render s).1 clauses (subject.after s)).1,
        (renderCase (subject.render s).1 clauses (subject.after s)).2) := by
  have compared : (liftM subject.render >>= fun value => liftM (renderCase value clauses) :
      Attempt String).run s =
        (liftM (renderCase (subject.render s).1 clauses) : Attempt String).run (subject.after s) :=
    Attempt.run_lift_bind rfl _
  rw [compared]
  rfl

/-- A form does the same with clauses among which it selects the same. -/
theorem renderControl_run_congr
    (alike : SelectsAlike form s (significant clauses) (significant clauses')) :
    (renderControl form name clauses).run s = (renderControl form name clauses').run s := by
  unfold renderControl
  generalize significant clauses = clauses, significant clauses' = clauses' at alike
  cases alike with
  | same => rfl
  | comment => rfl
  | first => rfl
  | last s clause front front' => simp only [List.getLast?_concat]
  | branchTrue isTrue body tail tail' =>
    simp only [truth_bind_run, isTrue]
    rfl
  | branchFalse isFalse body body' third =>
    simp only [truth_bind_run, isFalse, Bool.false_eq_true, if_false, List.getElem?_cons_succ,
      ← List.head?_eq_getElem?, third]
  | branchUndecided noVerdict tail tail' => simp only [truth_bind_run, noVerdict]
  | @unlessNotFalse s test notFalse tail tail' =>
    simp only [truth_bind_run]
    cases said : test.verdict s with
    | none => rfl
    | some b =>
      cases b with
      | true => rfl
      | false => exact absurd said notFalse
  | unlessFalse isFalse body tail tail' => simp only [truth_bind_run, isFalse]; rfl
  | @whenNotTrue s test notTrue tail tail' =>
    simp only [truth_bind_run]
    cases said : test.verdict s with
    | none => rfl
    | some b =>
      cases b with
      | true => exact absurd said notTrue
      | false => rfl
  | cond alike => exact renderCond_run_congr alike
  | case alike => rw [subject_bind_run, subject_bind_run, renderCase_congr alike]

end Forms

/-! ## Commands -/

section Commands

variable [AddressReader] [SpecialFunctions] {form : ControlForm} {name : String}

theorem builtin_control_congr (setting : Setting)
    (found : lookupCommand name = some (.control form)) {s : Session}
    {clauses clauses' : List Clause}
    (alike : SelectsAlike form s (significant clauses) (significant clauses')) :
    builtin setting name clauses s = builtin setting name clauses' s := by
  have same : (renderControl form name clauses).run s = (renderControl form name clauses').run s :=
    renderControl_run_congr alike
  exact (builtin_of_run found same).trans (builtin_of_run found rfl).symm

theorem builtin_case_of_unmatched (setting : Setting)
    (found : lookupCommand name = some (.control .case))
    {s s' : Session} {clauses pairs : List Clause} {subject default : Clause}
    (listed : significant clauses = subject :: (pairs ++ [default]))
    (unmatched : Unmatched (subject.render s).1 (subject.after s) pairs s') :
    builtin setting name clauses s = default.render s' := by
  have selected : (renderControl .case name clauses).run s =
      (.ok (default.render s').1, (default.render s').2) := by
    unfold renderControl
    rw [listed]
    show (liftM subject.render >>= fun value => liftM (renderCase value (pairs ++ [default])) :
      Attempt String).run s = _
    rw [subject_bind_run, renderCase_of_unmatched unmatched]
  exact builtin_of_run found selected

/-- The clauses that a form does not select cannot influence what becomes of its command: the
text, the warnings and the questions to the host stay the same when they are replaced. This
holds for the command of the table in front of any clauses, and for a command in a tree
whatever the host is. A clause without a partner, at the end of pairs that are compared with
a value, is selected where no pair matches, and is among the clauses that do not matter where
one does. -/
theorem control_ignores_unselected (setting : Setting)
    (found : lookupCommand name = some (.control form)) :
    (∀ (s : Session) (clauses clauses' : List Clause),
      SelectsAlike form s (significant clauses) (significant clauses') →
        builtin setting name clauses s = builtin setting name clauses' s) ∧
    (∀ (s : Session) (children children' : List Node), setting.commander.custom name = none →
      SelectsAlike form { s with depth := s.depth + 1 }
          (significant (Node.clauses setting children))
          (significant (Node.clauses setting children')) →
        (Node.command name children).render setting s =
          (Node.command name children').render setting s) ∧
    ∀ (s s' : Session) (clauses pairs : List Clause) (subject default : Clause),
      form = .case → significant clauses = subject :: (pairs ++ [default]) →
        Unmatched (subject.render s).1 (subject.after s) pairs s' →
          builtin setting name clauses s = default.render s' := by
  refine ⟨fun s clauses clauses' alike => builtin_control_congr setting found alike, ?_, ?_⟩
  · intro s children children' noCustom alike
    have same := builtin_control_congr setting found alike
    rw [Node.render, Node.render, evaluate, evaluate, noCustom, nested, nested]
    simp only [same]
  · rintro s s' clauses pairs subject default rfl listed unmatched
    exact builtin_case_of_unmatched setting found listed unmatched

end Commands

/-- The key that does not match is rendered, and its body, which asks about a user, is not. What
comes after the pair that matches is one more question in one list of clauses and nothing in
the other. -/
theorem control_ignores_unselected_case :
    let setting : Setting := ⟨.actionable ⟨fun _ _ => none, fun name => some name⟩, {}⟩
    let subject : Node := .command "user" [.text "ann"]
    let pair : List Node := [.command "?" [], .space, .command "user" [.text "bob"]]
    let pair' : List Node := [.command "?" [], .text "x"]
    let children : List Node :=
      [subject, .space] ++ pair ++ [.text "ann", .text "Ann", .command "user" [.text "eve"]]
    let children' : List Node := [subject] ++ pair' ++ [.text "ann", .space, .text "Ann"]
    let lone : List Node := [subject] ++ pair' ++ [.text "else"]
    lookupCommand "case" = some (.control .case) ∧
      builtin setting "case" (Node.clauses setting children) {} =
        builtin setting "case" (Node.clauses setting children') {} ∧
      (Node.command "case" children).render setting {} =
        (Node.command "case" children').render setting {} ∧
      ((Node.command "case" children).render setting {}).1 = "Ann" ∧
      ((Node.command "case" children).render setting {}).2.lookups = [.user "ann"] ∧
      builtin setting "case" (Node.clauses setting lone) {} =
        (Node.text "else").render setting
          ((Node.command "?" []).render setting (subject.render setting {}).2).2 := by
  intro setting subject pair pair' children children' lone
  have found : lookupCommand "case" = some (.control .case) := by decide +kernel
  have alike : SelectsAlike .case {} (significant (Node.clauses setting children))
      (significant (Node.clauses setting children')) :=
    .case (.passed (by decide +kernel) _ _ (.matched (by decide +kernel) _ _ _))
  have alikeBelow : SelectsAlike .case { depth := 1 } (significant (Node.clauses setting children))
      (significant (Node.clauses setting children')) :=
    .case (.passed (by decide +kernel) _ _ (.matched (by decide +kernel) _ _ _))
  have unmatched : Unmatched (subject.render setting {}).1 (subject.render setting {}).2
      (significant (Node.clauses setting pair')) _ :=
    .cons (by decide +kernel) _ (.nil _)
  obtain ⟨inTable, inTree, selected⟩ := control_ignores_unselected setting found
  refine ⟨found, inTable {} _ _ alike, inTree {} children children' rfl alikeBelow,
    by decide +kernel, by decide +kernel, ?_⟩
  exact selected {} _ _ _ ⟨subject, subject.render setting⟩
    ⟨.text "else", Node.render setting (.text "else")⟩ rfl rfl unmatched

end TexMarkup
