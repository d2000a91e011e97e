import TexMarkup.Evaluation

/-!
# What evaluations leave

An evaluation has a result in every state, and it adds warnings to those that there are. A
relation between the results of its parts and the warnings that they add passes to its own
result and all that it adds.

## Main definitions

* `Eval.Leaves`: the result and the warnings that are added are related, in every state.
* `Attempt.Leaves`: the same for attempts, where there is a result.
* `Eval.Appends`, `Attempt.Appends`: warnings are only added.
* `conclude`: the end of a command whose result is known.

## Main results

* `Eval.Leaves.bind`, `Attempt.Leaves.bind`: one evaluation after another.
* `Eval.Leaves.nested`: a level further down, or the failure of a command that lies too deep.
* `Attempt.Leaves.orMarker`: a failed attempt leaves its marker.
* `builtin_of_run`: a command of the table by the run of its handler.
-/

namespace TexMarkup

variable {α β : Type} {Q Q' : α → List Warning → Prop} {R : β → List Warning → Prop}

/-- Warnings are only added, and in every state the result is related to those that are. -/
def Eval.Leaves (evaluation : Eval α) (Q : α → List Warning → Prop) : Prop :=
  ∀ s : Session, ∃ recorded, (evaluation s).2.warnings = s.warnings ++ recorded ∧
    Q (evaluation s).1 recorded

/-- Warnings are only added, and in every state the result, if there is one, is related to
those that are. -/
def Attempt.Leaves (attempt : Attempt α) (Q : α → List Warning → Prop) : Prop :=
  Eval.Leaves attempt.run fun result recorded => ∀ x, result = .ok x → Q x recorded

/-- Warnings are only added. -/
def Eval.Appends (evaluation : Eval α) : Prop :=
  evaluation.Leaves fun _ _ => True

/-- Warnings are only added. -/
def Attempt.Appends (attempt : Attempt α) : Prop :=
  attempt.Leaves fun _ _ => True

namespace Eval.Leaves

variable {evaluation : Eval α} {next : α → Eval β}

theorem mono (h : evaluation.Leaves Q) (weaker : ∀ x ws, Q x ws → Q' x ws) :
    evaluation.Leaves Q' := by
  intro s
  obtain ⟨recorded, added, related⟩ := h s
  exact ⟨recorded, added, weaker _ _ related⟩

theorem appends (h : evaluation.Leaves Q) : evaluation.Appends :=
  h.mono fun _ _ _ => trivial

theorem pure {x : α} (h : Q x []) : Eval.Leaves (Pure.pure x) Q :=
  fun s => ⟨[], (List.append_nil s.warnings).symm, h⟩

/-- One evaluation after another. The second one is related to what both of them add. -/
theorem bind (h : evaluation.Leaves Q)
    (h' : ∀ x ws, Q x ws → (next x).Leaves fun y ws' => R y (ws ++ ws')) :
    Eval.Leaves (evaluation >>= next) R := by
  intro s
  obtain ⟨ws, added, related⟩ := h s
  obtain ⟨ws', added', related'⟩ := h' _ ws related (evaluation s).2
  refine ⟨ws ++ ws', ?_, related'⟩
  show ((next (evaluation s).1) (evaluation s).2).2.warnings = _
  rw [added', added, List.append_assoc]

/-- A result that is known as soon as that of another evaluation is. -/
theorem map {f : α → β} (h : evaluation.Leaves Q) (h' : ∀ x ws, Q x ws → R (f x) ws) :
    Eval.Leaves (evaluation >>= fun x => Pure.pure (f x)) R :=
  h.bind fun x ws related => .pure (by rw [List.append_nil]; exact h' x ws related)

variable {P : String → List Warning → Prop}

/-- A failure leaves its marker and its warning. -/
theorem fail {command : String} {e : CommandError} (h : P e.marker [⟨some command, e.message⟩]) :
    (TexMarkup.fail command e).Leaves P :=
  fun _ => ⟨[⟨some command, e.message⟩], rfl, h⟩

/-- A level further down, or a failure past the limit. -/
theorem nested {command : Eval String} {limit : Nat} {name : String} (h : command.Leaves P)
    (tooDeep : P (CommandError.tooDeep limit).marker
      [⟨some name, (CommandError.tooDeep limit).message⟩]) :
    (TexMarkup.nested limit name command).Leaves P := by
  intro s
  by_cases deep : limit ≤ s.depth
  · rw [TexMarkup.nested, if_pos deep]
    exact fail tooDeep s
  · rw [TexMarkup.nested, if_neg deep]
    exact h { s with depth := s.depth + 1 }

end Eval.Leaves

namespace Attempt.Leaves

variable {attempt : Attempt α} {next : α → Attempt β}

theorem mono (h : attempt.Leaves Q) (weaker : ∀ x ws, Q x ws → Q' x ws) : attempt.Leaves Q' :=
  Eval.Leaves.mono h fun _ ws related x isResult => weaker x ws (related x isResult)

theorem ofExcept {result : Except CommandError α} (h : ∀ x, result = .ok x → Q x []) :
    Attempt.Leaves (Attempt.ofExcept result) Q :=
  Eval.Leaves.pure h

theorem pure {x : α} (h : Q x []) : Attempt.Leaves (Pure.pure x) Q := by
  refine ofExcept fun x' same => ?_
  cases same
  exact h

theorem throw (e : CommandError) : Attempt.Leaves (MonadExcept.throw e) Q :=
  ofExcept nofun

/-- An evaluation as an attempt that succeeds. -/
theorem lift {evaluation : Eval α} (h : evaluation.Leaves Q) :
    Attempt.Leaves (liftM evaluation) Q := by
  intro s
  obtain ⟨recorded, added, related⟩ := h s
  refine ⟨recorded, added, fun x isResult => ?_⟩
  cases isResult
  exact related

/-- One attempt after another. The second one is related to what both of them add. -/
theorem bind (h : attempt.Leaves Q)
    (h' : ∀ x ws, Q x ws → (next x).Leaves fun y ws' => R y (ws ++ ws')) :
    Attempt.Leaves (attempt >>= next) R := by
  rw [Attempt.Leaves, ExceptT.run_bind]
  refine Eval.Leaves.bind h fun result ws related => ?_
  cases result with
  | ok x => exact h' x ws (related x rfl)
  | error e => exact Eval.Leaves.pure nofun

/-- A result that is known as soon as that of another attempt is. -/
theorem map {f : α → β} (h : attempt.Leaves Q) (h' : ∀ x ws, Q x ws → R (f x) ws) :
    Attempt.Leaves (attempt >>= fun x => Pure.pure (f x)) R :=
  h.bind fun x ws related => .pure (by rw [List.append_nil]; exact h' x ws related)

/-- The result of an attempt or the marker of its failure. -/
theorem orMarker {attempt : Attempt String} {Q : String → List Warning → Prop} {command : String}
    (h : attempt.Leaves Q)
    (marker : ∀ (e : CommandError) ws, Q e.marker (ws ++ [⟨some command, e.message⟩])) :
    (attempt.orMarker command).Leaves Q := by
  refine Eval.Leaves.bind h fun result ws related => ?_
  cases result with
  | ok html => exact .pure (by rw [List.append_nil]; exact related html rfl)
  | error e => exact fun s => ⟨[⟨some command, e.message⟩], rfl, marker e ws⟩

end Attempt.Leaves

/-! ## Single runs -/

section Runs

variable {α β : Type} {s s' : Session}

theorem Eval.bind_of_eq {evaluation : Eval α} {x : α} (given : evaluation s = (x, s'))
    (next : α → Eval β) : (evaluation >>= next) s = next x s' := by
  show next (evaluation s).1 (evaluation s).2 = next x s'
  rw [given]

theorem Attempt.run_lift_bind {evaluation : Eval α} {x : α} (given : evaluation s = (x, s'))
    (next : α → Attempt β) :
    ((liftM evaluation : Attempt α) >>= next).run s = (next x).run s' := by
  have lifted : (liftM evaluation : Attempt α).run s =
      (Except.ok (evaluation s).1, (evaluation s).2) := rfl
  rw [given] at lifted
  rw [ExceptT.run_bind]
  exact Eval.bind_of_eq lifted _

/-- The end of a command: its text, or the marker of its failure with a warning. -/
def conclude (name : String) (result : Except CommandError String) (s : Session) :
    String × Session :=
  match result with
  | .ok html => (html, s)
  | .error e => fail name e s

theorem Attempt.orMarker_of_run {attempt : Attempt String} {name : String}
    {result : Except CommandError String} (run : attempt.run s = (result, s')) :
    attempt.orMarker name s = conclude name result s' := by
  rw [Attempt.orMarker, Eval.bind_of_eq run]
  cases result <;> rfl

/-- After an error nothing more is done but to leave its marker. -/
theorem Attempt.orMarker_bind_of_error {attempt : Attempt α} {e : CommandError}
    (failed : attempt.run s = (.error e, s')) (next : α → Attempt String) (name : String) :
    (attempt >>= next).orMarker name s = fail name e s' := by
  have whole : (attempt >>= next).run s = (.error e, s') := by
    rw [ExceptT.run_bind]
    exact Eval.bind_of_eq failed _
  exact Attempt.orMarker_of_run whole

/-- A command of the table comes to the end to which the attempt of its handler comes. -/
theorem builtin_of_run [AddressReader] [SpecialFunctions] {setting : Setting} {handler : Handler}
    {name : String} {clauses : List Clause} {result : Except CommandError String}
    (found : lookupCommand name = some handler)
    (run : (handler.run setting name clauses).run s = (result, s')) :
    builtin setting name clauses s = conclude name result s' := by
  rw [builtin, found]
  exact Attempt.orMarker_of_run run

end Runs

end TexMarkup
