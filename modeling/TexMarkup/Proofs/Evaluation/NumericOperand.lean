import TexMarkup.Proofs.Evaluation.Operand

/-!
# Operands that are no numbers

A numeric command goes by the numbers among its children and by nothing else. A child that is
no number can be put in or left out anywhere: the result stays the same, a failure and the
number of operands in it included, and all that is added is what the child records itself.

## Main definitions

* `Handler.Numeric`: commands that compute with numbers.
* `Node.warningsAt`, `Node.lookupsAt`: the records of rendering trees at a depth.

## Main results

* `Handler.Numeric.exists_result`: the result is a function of the numbers.
* `builtin_numeric`: the command of the table.
* `numeric_ignores_nonNumber`: children that are no numbers.
-/

namespace TexMarkup

/-- The commands that compute with the numbers among their children. -/
inductive Handler.Numeric : Handler → Prop where
  | nbsp : Numeric .nbsp
  | arithmetic (op : Arithmetic) : Numeric (.arithmetic op)
  | function (f : NumericFunction) : Numeric (.function f)
  | percent (op : Percentage) : Numeric (.percent op)
  | compare (op : Comparison) : Numeric (.compare op)

/-- How many non-breaking spaces these operands ask for. -/
def nbspCount : List Double → Nat
  | [] => 1
  | x :: _ => (min (max x.truncate 1) maxNbspCount).toNat

theorem Attempt.ofExcept_bind {α β : Type} (result : Except CommandError α)
    (f : α → Except CommandError β) :
    (Attempt.ofExcept result >>= fun x => Attempt.ofExcept (f x)) =
      Attempt.ofExcept (result >>= f) := by
  cases result <;> rfl

theorem calculate_eq (calculation : List Double → Calculation) (clauses : List Clause) :
    calculate calculation clauses =
      liftM (operands clauses) >>= fun xs =>
        Attempt.ofExcept (calculation xs >>= formatNumber) := by
  rw [calculate]
  exact congrArg (liftM (operands clauses) >>= ·)
    (funext fun xs => Attempt.ofExcept_bind (calculation xs) formatNumber)

/-- A result leaves a text, and a failure leaves its marker and a warning. -/
theorem conclude_spec (name : String) (result : Except CommandError String) :
    ∃ html own, (own = [] ∨ ∃ e : CommandError, own = [⟨some name, e.message⟩] ∧ html = e.marker) ∧
      ∀ s : Session, conclude name result s = (html, { s with warnings := s.warnings ++ own }) := by
  cases result with
  | ok html => exact ⟨html, [], .inl rfl, fun s => by rw [List.append_nil]; rfl⟩
  | error e => exact ⟨e.marker, _, .inr ⟨e, rfl, rfl⟩, fun s => rfl⟩

section Commands

variable [AddressReader] [SpecialFunctions] {setting : Setting} {handler : Handler} {name : String}

/-- The result of a numeric command is a function of the numbers among its operands. -/
theorem Handler.Numeric.exists_result (numeric : handler.Numeric) (setting : Setting)
    (name : String) :
    ∃ result : List Double → Except CommandError String, ∀ clauses,
      handler.run setting name clauses =
        liftM (operands clauses) >>= fun xs => Attempt.ofExcept (result xs) := by
  cases numeric with
  | nbsp =>
    exact ⟨fun xs => .ok (String.join (List.replicate (nbspCount xs) nbspText)), fun _ => rfl⟩
  | compare op => exact ⟨fun xs => .ok (truthText (op.holds xs)), fun _ => rfl⟩
  | arithmetic op => exact ⟨_, calculate_eq (op.apply name)⟩
  | function f => exact ⟨_, calculate_eq (f.apply name)⟩
  | percent op => exact ⟨_, calculate_eq (op.apply name)⟩

/-- A numeric command renders all of its children and comes to a result that is a function of
the numbers which they say at this depth. -/
theorem builtin_numeric (delegates : setting.Delegates) (found : lookupCommand name = some handler)
    (numeric : handler.Numeric) :
    ∃ result : List Double → Except CommandError String, ∀ nodes s,
      builtin setting name (Node.clauses setting nodes) s =
        conclude name
          (result (nodes.filterMap fun node => coerceNumber (node.htmlAt setting s.depth)))
          (afterNodes setting nodes s) := by
  obtain ⟨result, computes⟩ := numeric.exists_result setting name
  refine ⟨result, fun nodes s => ?_⟩
  refine builtin_of_run found ?_
  rw [computes, Attempt.run_lift_bind (operands_run delegates nodes s)]
  rfl

/-! ## Children that are no numbers -/

/-- The warnings of rendering trees one after the other at a depth. -/
def Node.warningsAt (setting : Setting) (depth : Nat) (nodes : List Node) : List Warning :=
  (afterNodes setting nodes { depth }).warnings

/-- The questions to the host while trees are rendered one after the other at a depth. -/
def Node.lookupsAt (setting : Setting) (depth : Nat) (nodes : List Node) : List Reference :=
  (afterNodes setting nodes { depth }).lookups

theorem afterNodes_warnings (delegates : setting.Delegates) (nodes : List Node) (s : Session) :
    (afterNodes setting nodes s).warnings =
      s.warnings ++ Node.warningsAt setting s.depth nodes := by
  rw [afterNodes_eq delegates]
  rfl

theorem afterNodes_lookups (delegates : setting.Delegates) (nodes : List Node) (s : Session) :
    (afterNodes setting nodes s).lookups = s.lookups ++ Node.lookupsAt setting s.depth nodes := by
  rw [afterNodes_eq delegates]
  rfl

theorem Node.warningsAt_append (delegates : setting.Delegates) (depth : Nat)
    (nodes nodes' : List Node) :
    warningsAt setting depth (nodes ++ nodes') =
      warningsAt setting depth nodes ++ warningsAt setting depth nodes' := by
  rw [warningsAt, afterNodes_append, afterNodes_warnings delegates, afterNodes_depth delegates]
  rfl

theorem Node.lookupsAt_append (delegates : setting.Delegates) (depth : Nat)
    (nodes nodes' : List Node) :
    lookupsAt setting depth (nodes ++ nodes') =
      lookupsAt setting depth nodes ++ lookupsAt setting depth nodes' := by
  rw [lookupsAt, afterNodes_append, afterNodes_lookups delegates, afterNodes_depth delegates]
  rfl

/-- A child that is no number makes no difference to what a numeric command gives, wherever it
stands among the others: a number, a truth value, a run of spaces or the marker of a failure.
Its own records come between those of the children before it and those of the children after
it, and the failure of the command, if it has failed, comes after all of them. -/
theorem numeric_ignores_nonNumber (delegates : setting.Delegates)
    (found : lookupCommand name = some handler) (numeric : handler.Numeric)
    (before after : List Node) (child : Node) (s : Session)
    (noNumber : child = .space ∨ coerceNumber (child.htmlAt setting s.depth) = none) :
    let without := builtin setting name (Node.clauses setting (before ++ after)) s
    let run := builtin setting name (Node.clauses setting (before ++ child :: after)) s
    let warnings := Node.warningsAt setting s.depth
    let lookups := Node.lookupsAt setting s.depth
    run.1 = without.1 ∧
      run.2.lookups = s.lookups ++ lookups before ++ lookups [child] ++ lookups after ∧
      ∃ own, without.2.warnings = s.warnings ++ warnings before ++ warnings after ++ own ∧
        run.2.warnings =
          s.warnings ++ warnings before ++ warnings [child] ++ warnings after ++ own ∧
        (own = [] ∨ ∃ e : CommandError, own = [⟨some name, e.message⟩] ∧ run.1 = e.marker) := by
  intro without run warnings lookups
  obtain ⟨result, computes⟩ := builtin_numeric delegates found numeric
  have none : coerceNumber (child.htmlAt setting s.depth) = none := by
    rcases noNumber with rfl | none
    · exact coerceNumber_space setting s.depth
    · exact none
  -- The numbers are the same, so the command comes to the same end.
  have sameNumbers : ((before ++ child :: after).filterMap fun node =>
      coerceNumber (node.htmlAt setting s.depth)) =
        (before ++ after).filterMap fun node => coerceNumber (node.htmlAt setting s.depth) := by
    rw [List.filterMap_append, List.filterMap_cons, none, ← List.filterMap_append]
  obtain ⟨html, own, isOwn, ends⟩ := conclude_spec name
    (result ((before ++ after).filterMap fun node => coerceNumber (node.htmlAt setting s.depth)))
  have withoutEnd : without = _ := (computes (before ++ after) s).trans (ends _)
  have runEnd : run = _ := (computes (before ++ child :: after) s).trans
    ((congrArg (fun xs => conclude name (result xs) _) sameNumbers).trans (ends _))
  rw [withoutEnd, runEnd]
  have split : before ++ child :: after = before ++ ([child] ++ after) := rfl
  refine ⟨rfl, ?_, own, ?_, ?_, isOwn⟩
  · simp only [split, afterNodes_lookups delegates, Node.lookupsAt_append delegates,
      List.append_assoc, lookups]
  · simp only [afterNodes_warnings delegates, Node.warningsAt_append delegates, List.append_assoc,
      warnings]
  · simp only [split, afterNodes_warnings delegates, Node.warningsAt_append delegates,
      List.append_assoc, warnings]

end Commands

/-- A root of a negative number is no operand of a percentage, so one operand is missing as
before. It warns by itself, after the unknown command in front of it. -/
theorem numeric_ignores_nonNumber_arity :
    let setting : Setting := .default
    let before : List Node := [.command "?" [], .text "10"]
    let child : Node := .command "sqrt" [.text "-1"]
    let after : List Node := [.space, .command "!" []]
    let run := builtin setting "percent_of" (Node.clauses setting (before ++ child :: after)) {}
    setting.Delegates ∧ lookupCommand "percent_of" = some (.percent .of) ∧
      coerceNumber (child.htmlAt setting 0) = none ∧
      (builtin setting "percent_of" (Node.clauses setting (before ++ child :: after)) {}).1 =
        (builtin setting "percent_of" (Node.clauses setting (before ++ after)) {}).1 ∧
      (run.1, run.2.warnings.map Warning.command) =
        ("<span style=\"color: red\">[percent_of: expected 2 argument(s), got 1]</span>",
          [some "?", some "sqrt", some "!", some "percent_of"]) := by
  intro setting before child after run
  have delegates : setting.Delegates := delegates_standard _
  have found : lookupCommand "percent_of" = some (.percent .of) := by decide +kernel
  have noNumber : coerceNumber (child.htmlAt setting 0) = none := by decide +kernel
  have ignored := numeric_ignores_nonNumber delegates found (.percent .of) before after child {}
    (.inr noNumber)
  exact ⟨delegates, found, noNumber, ignored.1, by decide +kernel⟩

end TexMarkup
