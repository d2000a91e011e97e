import TexMarkup.Proofs.Evaluation.Level
import TexMarkup.Proofs.Evaluation.Operand

/-!
# Operations on truth values

An operation reads its operands from left to right and stops at the first one that is no
truth value. If all of them are, the result depends only on how many operands there are and
how many of them are true.

## Main definitions

* `operandNodes`: the children that are no spaces.
* `Logic.value`: the result for so many operands, so many of which are true.
* `Logic.Complements`: operations that are the opposite of one another.
* `Decided`, `trueCount`: operands that are truth values, and how many of them are true.

## Main results

* `Logic.apply_eq`: the result by numbers of operands.
* `builtin_logic`, `builtin_logic_of_noVerdict`: the command of the table.
* `Node.render_complement`: an operation as the negation of another one.
* `logic_counts`: the table of truth values, and what follows from it.
-/

namespace TexMarkup

/-- The children that are no spaces. -/
def operandNodes (children : List Node) : List Node :=
  children.filter fun node => !node.isSpace

theorem operandNodes_command (name : String) (children : List Node) :
    operandNodes [.command name children] = [.command name children] := rfl

theorem operandNodes_space (before after : List Node) :
    operandNodes (before ++ .space :: after) = operandNodes (before ++ after) := by
  rw [operandNodes, List.filter_append, List.filter_cons_of_neg (by decide), ← List.filter_append,
    operandNodes]

namespace Logic

/-- The result for `n` operands, `k` of which are true. For the negation this is so with one
operand only. -/
def value (op : Logic) (n k : Nat) : Bool :=
  match op with
  | and => k = n
  | or => 0 < k
  | xor => k = 1
  | nand => k < n
  | nor => k = 0
  | xnor => k ≠ 1
  | not => k = 0

/-- The first operation is the opposite of the second one. -/
inductive Complements : Logic → Logic → Prop where
  | nand : Complements .nand .and
  | nor : Complements .nor .or
  | xnor : Complements .xnor .xor

theorem bne_eq_decide_ne (a b : Nat) : (a != b) = decide (a ≠ b) := by
  by_cases same : a = b <;> simp [same]

theorem apply_eq (op : Logic) (name : String) (bs : List Bool) :
    op.apply name bs =
      if op = .not ∧ bs.length ≠ 1 then .error (.arity name 1 bs.length)
      else .ok (op.value bs.length (bs.count true)) := by
  cases op with
  | not =>
    match bs with
    | [] => rfl
    | [true] | [false] => rfl
    | b :: b' :: bs =>
      rw [if_pos ⟨rfl, by simp⟩]
      rfl
  | nand =>
    have atMost : bs.count true ≤ bs.length := List.count_le_length
    have fewer : (bs.count true != bs.length) = decide (bs.count true < bs.length) := by
      rw [bne_eq_decide_ne]
      exact decide_eq_decide.mpr (by omega)
    exact congrArg Except.ok fewer
  | xnor => exact congrArg Except.ok (bne_eq_decide_ne _ _)
  | _ => rfl

theorem Complements.value_eq {op op' : Logic} (h : op.Complements op') {n k : Nat}
    (atMost : k ≤ n) : op.value n k = !op'.value n k := by
  cases h with
  | xnor => rw [value, value, ← decide_not]
  | nand | nor =>
    rw [value, value, ← decide_not]
    exact decide_eq_decide.mpr (by omega)

end Logic

section Commands

variable [AddressReader] [SpecialFunctions] {setting : Setting} {op : Logic} {name : String}
variable {children : List Node} {s : Session}

/-! ## Operands -/

theorem significant_eq (setting : Setting) (children : List Node) :
    significant (Node.clauses setting children) = Node.clauses setting (operandNodes children) := by
  rw [Node.clauses_eq, significant_clauses, ← Node.clauses_eq, operandNodes]

/-- Every one of these operands is read as a truth value at a depth. -/
def Decided (setting : Setting) (depth : Nat) (operands : List Node) : Prop :=
  ∀ node ∈ operands, node.verdictAt setting depth ≠ none

instance (setting : Setting) (depth : Nat) (operands : List Node) :
    Decidable (Decided setting depth operands) :=
  inferInstanceAs (Decidable (∀ node ∈ operands, node.verdictAt setting depth ≠ none))

/-- How many of the operands are true at a depth. -/
def trueCount (setting : Setting) (depth : Nat) (operands : List Node) : Nat :=
  operands.countP fun node => node.verdictAt setting depth = some true

theorem trueCount_le (setting : Setting) (depth : Nat) (operands : List Node) :
    trueCount setting depth operands ≤ operands.length :=
  List.countP_le_length

/-- The truth values of operands all of which have one. -/
theorem exists_verdicts {depth : Nat} {operands : List Node}
    (decided : Decided setting depth operands) :
    ∃ bs : List Bool, operands.map (Node.verdictAt setting depth) = bs.map some ∧
      bs.length = operands.length ∧ bs.count true = trueCount setting depth operands := by
  induction operands with
  | nil => exact ⟨[], rfl, rfl, rfl⟩
  | cons node operands ih =>
    obtain ⟨bs, said, length, count⟩ := ih fun node mem => decided node (List.mem_cons_of_mem _ mem)
    obtain ⟨b, first⟩ := Option.ne_none_iff_exists'.mp (decided node List.mem_cons_self)
    refine ⟨b :: bs, by rw [List.map_cons, List.map_cons, first, said], by simp [length], ?_⟩
    rw [List.count_cons, count, trueCount, trueCount, List.countP_cons, first]
    simp

/-! ## Commands of the table -/

theorem builtin_logic_of_run (found : lookupCommand name = some (.logic op))
    {result : Except CommandError (List Bool)} {s' : Session}
    (read : (truths name (Node.clauses setting (operandNodes children))).run s = (result, s')) :
    builtin setting name (Node.clauses setting children) s =
      conclude name (result >>= fun bs => (op.apply name bs).map truthText) s' := by
  refine builtin_of_run found ?_
  show (renderLogic op name (Node.clauses setting children)).run s = _
  rw [renderLogic, significant_eq, ExceptT.run_bind, Eval.bind_of_eq read]
  cases result with
  | error e => rfl
  | ok bs =>
    show (Attempt.ofExcept (op.apply name bs) >>= fun b => pure (truthText b)).run s' =
      ((op.apply name bs).map truthText, s')
    cases op.apply name bs <;> rfl

theorem builtin_logic (delegates : setting.Delegates)
    (found : lookupCommand name = some (.logic op))
    (decided : Decided setting s.depth (operandNodes children)) :
    let n := (operandNodes children).length
    let k := trueCount setting s.depth (operandNodes children)
    builtin setting name (Node.clauses setting children) s =
      if op = .not ∧ n ≠ 1 then fail name (.arity name 1 n) (afterNodes setting children s)
      else (truthText (op.value n k), afterNodes setting children s) := by
  intro n k
  obtain ⟨bs, said, length, count⟩ := exists_verdicts decided
  have ends := builtin_logic_of_run found (truths_run delegates said)
  rw [operandNodes, afterNodes_filter] at ends
  rw [ends]
  show conclude name ((op.apply name bs).map truthText) _ = _
  rw [op.apply_eq, length, count]
  split <;> rfl

/-- The first operand that is no truth value ends the command. -/
theorem builtin_logic_of_noVerdict (delegates : setting.Delegates)
    (found : lookupCommand name = some (.logic op)) {before after : List Node} {node : Node}
    (split : operandNodes children = before ++ node :: after)
    (decided : Decided setting s.depth before)
    (noVerdict : node.verdictAt setting s.depth = none) :
    builtin setting name (Node.clauses setting children) s =
      fail name (.notBoolean name (node.htmlAt setting s.depth))
        (afterNodes setting (before ++ [node]) s) := by
  obtain ⟨bs, said, -, -⟩ := exists_verdicts decided
  have read : (truths name (Node.clauses setting (operandNodes children))).run s =
      (.error (.notBoolean name (node.htmlAt setting s.depth)),
        afterNodes setting (before ++ [node]) s) := by
    rw [split]
    exact truths_run_of_noVerdict delegates said noVerdict
  exact builtin_logic_of_run found read

/-- Spaces make no difference to what the command does. -/
theorem builtin_logic_space (found : lookupCommand name = some (.logic op))
    (before after : List Node) (s : Session) :
    builtin setting name (Node.clauses setting (before ++ .space :: after)) s =
      builtin setting name (Node.clauses setting (before ++ after)) s := by
  have same : significant (Node.clauses setting (before ++ .space :: after)) =
      significant (Node.clauses setting (before ++ after)) := by
    rw [significant_eq, significant_eq, operandNodes_space]
  have sameRun : (renderLogic op name (Node.clauses setting (before ++ .space :: after))).run s =
      (renderLogic op name (Node.clauses setting (before ++ after))).run s := by
    rw [renderLogic, renderLogic, same]
  exact (builtin_of_run found sameRun).trans (builtin_of_run found rfl).symm

/-- The order of operands that have truth values makes no difference to the text. -/
theorem builtin_logic_perm (delegates : setting.Delegates)
    (found : lookupCommand name = some (.logic op)) {children' : List Node}
    (decided : Decided setting s.depth (operandNodes children))
    (perm : (operandNodes children').Perm (operandNodes children)) :
    (builtin setting name (Node.clauses setting children') s).1 =
      (builtin setting name (Node.clauses setting children) s).1 := by
  have decided' : Decided setting s.depth (operandNodes children') :=
    fun node mem => decided node (perm.mem_iff.mp mem)
  have sameCount : trueCount setting s.depth (operandNodes children') =
      trueCount setting s.depth (operandNodes children) := perm.countP_eq _
  rw [builtin_logic delegates found decided, builtin_logic delegates found decided',
    perm.length_eq, sameCount]
  split <;> rfl

/-! ## The opposite -/

theorem Node.verdictAt_of_htmlAt {depth : Nat} {node : Node} {b : Bool}
    (shown : node.htmlAt setting depth = truthText b) : node.verdictAt setting depth = some b := by
  rw [verdictAt, shown]
  cases b <;> decide +kernel

/-- An operand says the same further down, if it does not reach the limit there. -/
theorem Node.verdictAt_lowered (delegates : setting.Delegates) {depth more : Nat} {node : Node}
    (fits : depth + more + node.depth ≤ setting.options.maxDepth) :
    node.verdictAt setting (depth + more) = node.verdictAt setting depth := by
  have lowered := (node.render_lowered delegates depth fits { depth } rfl).2
  have same : node.htmlAt setting (depth + more) = node.htmlAt setting depth := by
    rw [htmlAt, lowered]
    rfl
  rw [verdictAt, verdictAt, same]

theorem afterNodes_lowered (delegates : setting.Delegates) {nodes : List Node} {more : Nat}
    (fits : s.depth + more + Node.depthList nodes ≤ setting.options.maxDepth) :
    afterNodes setting nodes { s with depth := s.depth + more } =
      { afterNodes setting nodes s with depth := s.depth + more } := by
  have lowered : Lowered s.depth more (renderNodes setting nodes) (renderNodes setting nodes) := by
    rw [renderNodes, Node.clauses_eq]
    refine (lowered_lockstep setting.answer s.depth more).renderAll fun node mem => ?_
    have below := Node.depth_le_depthList mem
    exact node.render_lowered delegates s.depth (by omega)
  exact congrArg Prod.snd (lowered s rfl).2

/-- The command in a tree, for operands that have truth values. -/
theorem Node.render_logic (delegates : setting.Delegates)
    (found : lookupCommand name = some (.logic op))
    (noCustom : setting.commander.custom name = none) (fits : s.depth < setting.options.maxDepth)
    (decided : Decided setting (s.depth + 1) (operandNodes children))
    (single : op = .not → (operandNodes children).length = 1) :
    (Node.command name children).render setting s =
      (truthText (op.value (operandNodes children).length
          (trueCount setting (s.depth + 1) (operandNodes children))),
        { afterNodes setting children { s with depth := s.depth + 1 } with depth := s.depth }) := by
  let inside : Session := { s with depth := s.depth + 1 }
  have decidedInside : Decided setting inside.depth (operandNodes children) := decided
  have leaves : (afterNodes setting children inside).depth - 1 = s.depth := by
    rw [afterNodes_depth delegates]
    rfl
  have answers : builtin setting name (Node.clauses setting children) inside = _ :=
    (builtin_logic delegates found decidedInside).trans
      (if_neg fun mismatch => mismatch.2 (single mismatch.1))
  rw [Node.render_of_noCustom noCustom fits, answers]
  simp only [leaves]
  rfl

/-- Far enough from the limit, the operands can as well be read at the depth of the command
itself. -/
theorem Node.render_logic_of_fits (delegates : setting.Delegates)
    (found : lookupCommand name = some (.logic op))
    (noCustom : setting.commander.custom name = none)
    (decided : Decided setting s.depth (operandNodes children))
    (single : op = .not → (operandNodes children).length = 1)
    (fits : s.depth + 1 + Node.depthList children ≤ setting.options.maxDepth) :
    (Node.command name children).render setting s =
      (truthText (op.value (operandNodes children).length
          (trueCount setting s.depth (operandNodes children))),
        afterNodes setting children s) := by
  have same : ∀ node ∈ operandNodes children,
      node.verdictAt setting (s.depth + 1) = node.verdictAt setting s.depth := by
    intro node mem
    have below := depth_le_depthList (List.mem_filter.mp mem).1
    exact node.verdictAt_lowered delegates (by omega)
  have sameCount : trueCount setting (s.depth + 1) (operandNodes children) =
      trueCount setting s.depth (operandNodes children) :=
    List.countP_congr fun node mem => by rw [same node mem]
  have decidedBelow : Decided setting (s.depth + 1) (operandNodes children) :=
    fun node mem => (same node mem).trans_ne (decided node mem)
  have stays : (afterNodes setting children s).depth = s.depth :=
    afterNodes_depth delegates children s
  rw [render_logic delegates found noCustom (by omega) decidedBelow single, sameCount,
    afterNodes_lowered delegates fits, ← stays]

theorem value_not_trueCount {depth : Nat} {node : Node} {b : Bool}
    (verdict : node.verdictAt setting depth = some b) :
    Logic.not.value 1 (trueCount setting depth [node]) = !b := by
  rw [trueCount, List.countP_singleton, verdict]
  cases b <;> rfl

/-- An operation is the negation of its opposite, for operands that have truth values. -/
theorem Node.render_complement (delegates : setting.Delegates) {op' : Logic}
    {opposite negation : String} (complements : op.Complements op')
    (found : lookupCommand name = some (.logic op))
    (foundOpposite : lookupCommand opposite = some (.logic op'))
    (foundNegation : lookupCommand negation = some (.logic .not))
    (noCustom : ∀ command ∈ [name, opposite, negation], setting.commander.custom command = none)
    (decided : Decided setting (s.depth + 1) (operandNodes children))
    (fits : s.depth + 2 + Node.depthList children ≤ setting.options.maxDepth) :
    (Node.command name children).render setting s =
      (Node.command negation [.command opposite children]).render setting s := by
  obtain ⟨noName, noOpposite, noNegation⟩ :
      setting.commander.custom name = none ∧ setting.commander.custom opposite = none ∧
        setting.commander.custom negation = none := by simpa using noCustom
  obtain ⟨notNot, notNot'⟩ : op ≠ .not ∧ op' ≠ .not := by cases complements <;> decide
  -- Both commands render the same children once, the one below the other one level further down.
  let operand : Node := .command opposite children
  let inside : Session := { s with depth := s.depth + 1 }
  let value : Bool := op'.value (operandNodes children).length
    (trueCount setting (s.depth + 1) (operandNodes children))
  have inner : operand.render setting inside =
      (truthText value, afterNodes setting children inside) :=
    render_logic_of_fits delegates foundOpposite noOpposite decided (absurd · notNot')
      (by show s.depth + 1 + 1 + _ ≤ _; omega)
  have verdict : operand.verdictAt setting (s.depth + 1) = some value :=
    verdictAt_of_htmlAt ((operand.render_fst delegates inside).symm.trans (congrArg Prod.fst inner))
  have decidedOperand : Decided setting (s.depth + 1) (operandNodes [operand]) := by
    rw [operandNodes_command]
    intro node mem
    rw [List.mem_singleton.mp mem, verdict]
    exact Option.some_ne_none _
  rw [render_logic delegates found noName (by omega) decided (absurd · notNot),
    complements.value_eq (trueCount_le _ _ _),
    render_logic delegates foundNegation noNegation (by omega) decidedOperand (fun _ => rfl),
    operandNodes_command, List.length_singleton, value_not_trueCount verdict, afterNodes_cons,
    afterNodes_nil, inner]

/-- An operation on truth values reads its operands from left to right. The first one that is
no truth value is named in the failure, and nothing after it is rendered. If all of them are,
their number and the number of the true ones decide, so neither their order nor spaces among
the children matter, and the negative operations are the negations of the positive ones. -/
theorem logic_counts (delegates : setting.Delegates)
    (found : lookupCommand name = some (.logic op)) (children : List Node) (s : Session) :
    let result := fun children => builtin setting name (Node.clauses setting children) s
    let n := (operandNodes children).length
    let k := trueCount setting s.depth (operandNodes children)
    (∀ before node after, operandNodes children = before ++ node :: after →
      Decided setting s.depth before → node.verdictAt setting s.depth = none →
        result children = fail name (.notBoolean name (node.htmlAt setting s.depth))
          (afterNodes setting (before ++ [node]) s)) ∧
    (Decided setting s.depth (operandNodes children) →
      result children =
        if op = .not ∧ n ≠ 1 then fail name (.arity name 1 n) (afterNodes setting children s)
        else (truthText (op.value n k), afterNodes setting children s)) ∧
    (∀ children', Decided setting s.depth (operandNodes children) →
      (operandNodes children').Perm (operandNodes children) →
        (result children').1 = (result children).1) ∧
    (∀ before after, result (before ++ .space :: after) = result (before ++ after)) ∧
    ∀ op' opposite negation, op.Complements op' →
      lookupCommand opposite = some (.logic op') → lookupCommand negation = some (.logic .not) →
      (∀ command ∈ [name, opposite, negation], setting.commander.custom command = none) →
      Decided setting (s.depth + 1) (operandNodes children) →
      s.depth + (Node.command negation [.command opposite children]).depth ≤
        setting.options.maxDepth →
        (Node.command name children).render setting s =
          (Node.command negation [.command opposite children]).render setting s := by
  refine ⟨fun before node after split decided noVerdict => ?_, builtin_logic delegates found,
    fun children' decided perm => builtin_logic_perm delegates found decided perm,
    fun before after => builtin_logic_space found before after s, ?_⟩
  · exact builtin_logic_of_noVerdict delegates found split decided noVerdict
  · intro op' opposite negation complements foundOpposite foundNegation noCustom decided fits
    have below : s.depth + 2 + Node.depthList children ≤ setting.options.maxDepth := by
      simp only [Node.depth, Node.depthList] at fits
      omega
    exact Node.render_complement delegates complements found foundOpposite foundNegation noCustom
      decided below

end Commands

/-- Two operands, one of them true, in both orders; and an operand that is no truth value, behind
which an unknown command is not reached and does not warn. -/
theorem logic_counts_nand :
    let setting : Setting := .default
    let less : Node := .command "<" [.text "2", .space, .text "1"]
    let children : List Node := [.text "true", .space, less]
    let swapped : List Node := [less, .text "true"]
    let undecided : List Node := [.text "true", .space, .text "maybe", .command "?" []]
    let run := builtin setting "nand" (Node.clauses setting undecided) {}
    setting.Delegates ∧ lookupCommand "nand" = some (.logic .nand) ∧
      Decided setting 0 (operandNodes children) ∧
      (builtin setting "nand" (Node.clauses setting children) {}).1 = "true" ∧
      (builtin setting "nand" (Node.clauses setting swapped) {}).1 = "true" ∧
      run.1 = "<span style=\"color: red\">[nand: maybe is not a boolean]</span>" ∧
      run.2.warnings.map Warning.command = [some "nand"] ∧
      (Node.command "nand" children).render setting {} =
        (Node.command "not" [.command "and" children]).render setting {} := by
  intro setting less children swapped undecided run
  have delegates : setting.Delegates := delegates_standard _
  have found : lookupCommand "nand" = some (.logic .nand) := by decide +kernel
  have decided : Decided setting 0 (operandNodes children) := by decide +kernel
  obtain ⟨-, counted, permuted, -, complement⟩ := logic_counts delegates found children {}
  obtain ⟨failed, -⟩ := logic_counts delegates found undecided {}
  have answer : (builtin setting "nand" (Node.clauses setting children) {}).1 = "true" :=
    (congrArg Prod.fst (counted decided)).trans (by decide +kernel)
  have stops : run = _ := failed [.text "true"] (.text "maybe") [.command "?" []] rfl
    (by decide +kernel) (by decide +kernel)
  refine ⟨delegates, found, decided, answer,
    (permuted swapped decided (List.Perm.swap _ _ _)).trans answer,
    ?_, ?_, ?_⟩
  · rw [stops]
    decide +kernel
  · rw [stops]
    decide +kernel
  · exact complement .and "and" "not" .nand (by decide +kernel) (by decide +kernel)
      (fun _ _ => rfl) (by decide +kernel) (by decide +kernel)

end TexMarkup
