import Mathlib.Data.List.Chain
import TexMarkup.Proofs.Evaluation.NumericResult

/-!
# Chained comparisons

A comparison only looks at neighbouring operands. As every operand is a finite number and an
order is transitive, what holds of neighbours holds of all operands in a row; only that of two
numbers in a row none repeats says nothing about the others. A comparison always comes to a
truth value, whatever its children are.

## Main definitions

* `Double.exact`: the number that a double stands for.
* `Comparison.Relates`: the relation of numbers that is tested.
* `Comparison.mirrored`: the comparison from right to left.

## Main results

* `Comparison.test_iff`: the test of two doubles.
* `Comparison.holds_iff_pairwise`: neighbours speak for all operands.
* `Comparison.holds_mirrored`: a chain read from right to left.
* `operands_finite`, `operands_snd`: the operands of any clauses, and what they record.
* `comparison_global`: the command of the table.
-/

namespace TexMarkup

/-! ## Finite doubles by their values -/

namespace Double

variable {x y : Double}

/-- The number that a finite double stands for. -/
def exact : Double → ℚ
  | finite negative rank => value negative rank
  | _ => 0

theorem value_eq (negative : Bool) (rank : Nat) :
    value negative rank = (signedUnits negative rank : ℚ) / unitsPerOne := by
  rw [value, signed, signedUnits]
  cases negative with
  | false => rw [if_neg Bool.false_ne_true, if_neg Bool.false_ne_true, Int.cast_natCast]
  | true => rw [if_pos rfl, if_pos rfl, Int.cast_neg, Int.cast_natCast, neg_div]

/-- Finite doubles are compared by the numbers for which they stand. -/
theorem less_iff (finiteX : x.isFinite = true) (finiteY : y.isFinite = true) :
    x.less y = true ↔ x.exact < y.exact := by
  match x, y, finiteX, finiteY with
  | finite s a, finite t b, _, _ =>
    rw [less, exact, exact, value_eq, value_eq, decide_eq_true_iff,
      div_lt_div_iff_of_pos_right unitsPerOne_pos, Int.cast_lt]

theorem equal_iff (finiteX : x.isFinite = true) (finiteY : y.isFinite = true) :
    x.equal y = true ↔ x.exact = y.exact := by
  match x, y, finiteX, finiteY with
  | finite s a, finite t b, _, _ =>
    rw [equal, exact, exact, value_eq, value_eq, decide_eq_true_iff,
      div_left_inj' unitsPerOne_pos.ne', Int.cast_inj]

theorem lessEqual_iff (finiteX : x.isFinite = true) (finiteY : y.isFinite = true) :
    x.lessEqual y = true ↔ x.exact ≤ y.exact := by
  rw [lessEqual, Bool.or_eq_true, less_iff finiteX finiteY, equal_iff finiteX finiteY,
    le_iff_lt_or_eq]

theorem equal_comm (x y : Double) : x.equal y = y.equal x := by
  cases x <;> cases y <;> simp only [equal, eq_comm, Bool.beq_comm]

end Double

/-! ## Chains -/

namespace Comparison

variable {op : Comparison} {x y : Double} {xs : List Double}

/-- The relation of numbers that a comparison tests. -/
def Relates (op : Comparison) (p q : ℚ) : Prop :=
  match op with
  | equal => p = q
  | notEqual => p ≠ q
  | less => p < q
  | lessEqual => p ≤ q
  | greater => q < p
  | greaterEqual => q ≤ p

/-- The comparison that says of two numbers what this one says of them the other way round. -/
def mirrored : Comparison → Comparison
  | equal => equal
  | notEqual => notEqual
  | less => greater
  | lessEqual => greaterEqual
  | greater => less
  | greaterEqual => lessEqual

theorem test_iff (finiteX : x.isFinite = true) (finiteY : y.isFinite = true) :
    op.test x y = true ↔ op.Relates x.exact y.exact := by
  cases op with
  | equal => exact Double.equal_iff finiteX finiteY
  | notEqual =>
    rw [test, Bool.not_eq_true', ← Bool.not_eq_true, Double.equal_iff finiteX finiteY]
    rfl
  | less => exact Double.less_iff finiteX finiteY
  | lessEqual => exact Double.lessEqual_iff finiteX finiteY
  | greater => exact Double.less_iff finiteY finiteX
  | greaterEqual => exact Double.lessEqual_iff finiteY finiteX

theorem test_mirrored (op : Comparison) (x y : Double) : op.mirrored.test x y = op.test y x := by
  cases op with
  | equal => exact x.equal_comm y
  | notEqual => exact congrArg (!·) (x.equal_comm y)
  | _ => rfl

theorem holds_iff_isChain (op : Comparison) (xs : List Double) :
    op.holds xs = true ↔ xs.IsChain fun x y => op.test x y = true := by
  fun_induction holds op xs with
  | case1 x y xs ih => rw [Bool.and_eq_true, ih, List.isChain_cons_cons]
  | case2 xs short =>
    match xs, short with
    | [], _ => simp
    | [x], _ => simp
    | x :: y :: xs, short => exact absurd rfl (short x y xs)

/-- A chain of finite doubles is one of the numbers for which they stand. -/
theorem holds_iff (finite : ∀ x ∈ xs, x.isFinite = true) :
    op.holds xs = true ↔ (xs.map Double.exact).IsChain op.Relates := by
  rw [holds_iff_isChain, List.isChain_map]
  exact List.IsChain.iff_of_mem_imp fun x y memX memY => test_iff (finite x memX) (finite y memY)

theorem Relates.trans (ordered : op ≠ .notEqual) {p q r : ℚ} (h : op.Relates p q)
    (h' : op.Relates q r) : op.Relates p r := by
  cases op with
  | equal => exact Eq.trans h h'
  | notEqual => exact absurd rfl ordered
  | less => exact lt_trans h h'
  | lessEqual => exact le_trans h h'
  | greater => exact lt_trans h' h
  | greaterEqual => exact le_trans h' h

/-- If neighbours compare, then all operands do with those behind them. -/
theorem holds_iff_pairwise (ordered : op ≠ .notEqual) (finite : ∀ x ∈ xs, x.isFinite = true) :
    op.holds xs = true ↔ (xs.map Double.exact).Pairwise op.Relates := by
  have transitive : Trans op.Relates op.Relates op.Relates := ⟨Relates.trans ordered⟩
  rw [holds_iff finite, List.isChain_iff_pairwise]

/-- The other comparison holds of the operands in the other order. -/
theorem holds_mirrored (op : Comparison) (xs : List Double) :
    op.mirrored.holds xs.reverse = op.holds xs := by
  rw [Bool.eq_iff_iff, holds_iff_isChain, holds_iff_isChain, List.isChain_reverse]
  simp only [test_mirrored]

end Comparison

/-! ## Operands -/

theorem coerceNumber_finite {text : String} {x : Double} (read : coerceNumber text = some x) :
    x.isFinite = true :=
  (Option.filter_eq_some_iff.mp read).2

/-- Whatever clauses render to, their operands are finite numbers. -/
theorem operands_finite (clauses : List Clause) (s : Session) :
    ∀ x ∈ (operands clauses s).1, x.isFinite = true := by
  induction clauses generalizing s with
  | nil => nofun
  | cons clause clauses ih =>
    cases space : clause.node.isSpace with
    | true =>
      rw [operands_space _ space]
      exact ih s
    | false =>
      rw [operands_cons _ space]
      intro x mem
      rcases List.mem_append.mp mem with first | later
      · exact coerceNumber_finite (Option.mem_toList.mp first)
      · exact ih _ x later

theorem truthText_eq_true_iff (b : Bool) : truthText b = "true" ↔ b = true := by
  cases b <;> decide

section Commands

variable [AddressReader] [SpecialFunctions] {setting : Setting} {name : String} {op : Comparison}

/-- Finding the operands records what rendering the children records. -/
theorem operands_snd (nodes : List Node) (s : Session) :
    (operands (Node.clauses setting nodes) s).2 = afterNodes setting nodes s := by
  induction nodes generalizing s with
  | nil => rfl
  | cons node nodes ih =>
    cases node with
    | space =>
      rw [Node.clauses, operands_space _ rfl, ih]
      rfl
    | text content => rw [Node.clauses, operands_cons _ rfl, ih, afterNodes_cons]
    | command name children => rw [Node.clauses, operands_cons _ rfl, ih, afterNodes_cons]

/-- A comparison leaves a truth value and records nothing of its own. -/
theorem builtin_compare (found : lookupCommand name = some (.compare op)) (children : List Node)
    (s : Session) :
    builtin setting name (Node.clauses setting children) s =
      (truthText (op.holds (operands (Node.clauses setting children) s).1),
        afterNodes setting children s) := by
  have given : operands (Node.clauses setting children) s =
      ((operands (Node.clauses setting children) s).1, afterNodes setting children s) :=
    Prod.ext rfl (operands_snd children s)
  have computes : (Handler.compare op).run setting name (Node.clauses setting children) =
      liftM (operands (Node.clauses setting children)) >>= fun xs =>
        Attempt.ofExcept (.ok (truthText (op.holds xs))) := rfl
  have run : ((Handler.compare op).run setting name (Node.clauses setting children)).run s =
      (.ok (truthText (op.holds (operands (Node.clauses setting children) s).1)),
        afterNodes setting children s) := by
    rw [computes, Attempt.run_lift_bind given]
    rfl
  exact builtin_of_run found run

/-- A comparison is read as a truth value wherever it is allowed to stand. -/
theorem verdict_compare (found : lookupCommand name = some (.compare op))
    (noCustom : setting.commander.custom name = none) (children : List Node) {s : Session}
    (fits : s.depth < setting.options.maxDepth) :
    ∃ b, Clause.verdict ⟨.command name children, (Node.command name children).render setting⟩ s =
      some b := by
  simp only [Clause.verdict, Node.render_of_noCustom noCustom fits, builtin_compare found]
  cases op.holds _ with
  | true => exact ⟨true, by decide +kernel⟩
  | false => exact ⟨false, by decide +kernel⟩

/-- A comparison compares all of its operands. They are finite numbers, whatever the children are,
and the result is true just when each of them is in the relation to all that come behind it; only
that operands are different is asked of neighbours alone. Read from right to left the operands are
in the mirrored relation. The comparison records no more than its children do, and it always is a
truth value. -/
theorem comparison_global (found : lookupCommand name = some (.compare op)) (children : List Node)
    (s : Session) :
    let xs := (operands (Node.clauses setting children) s).1
    let values := xs.map Double.exact
    let run := builtin setting name (Node.clauses setting children) s
    (∀ x ∈ xs, x.isFinite = true) ∧
      (op ≠ .notEqual → (run.1 = "true" ↔ values.Pairwise op.Relates)) ∧
      (op = .notEqual → (run.1 = "true" ↔ values.IsChain (· ≠ ·))) ∧
      run.1 = truthText (op.mirrored.holds xs.reverse) ∧
      (setting.Delegates → ∀ opposite, lookupCommand opposite = some (.compare op.mirrored) →
        (builtin setting opposite (Node.clauses setting children.reverse) s).1 = run.1) ∧
      (run.1 = "true" ∨ run.1 = "false") ∧ run.2 = afterNodes setting children s ∧
      (setting.commander.custom name = none → s.depth < setting.options.maxDepth →
        ∃ b, Clause.verdict
          ⟨.command name children, (Node.command name children).render setting⟩ s = some b) := by
  intro xs values run
  have finite : ∀ x ∈ xs, x.isFinite = true := operands_finite _ s
  have ran : run = (truthText (op.holds xs), afterNodes setting children s) :=
    builtin_compare found children s
  rw [ran, truthText_eq_true_iff]
  refine ⟨finite, fun ordered => op.holds_iff_pairwise ordered finite, ?_, ?_, ?_, ?_, rfl,
    fun noCustom fits => verdict_compare found noCustom children fits⟩
  · rintro rfl
    exact Comparison.holds_iff finite
  · rw [op.holds_mirrored]
  · intro delegates opposite found'
    have reversed : (operands (Node.clauses setting children.reverse) s).1 = xs.reverse := by
      simp only [xs, operands_run delegates, List.filterMap_reverse]
    rw [builtin_compare found', reversed, op.holds_mirrored]
  · cases op.holds xs
    · exact .inr rfl
    · exact .inl rfl

end Commands

/-- Three numbers ascend, with a word between them that is no operand. From right to left they
descend. -/
theorem comparison_global_ascending :
    let setting : Setting := .default
    let children : List Node := [.text "-1", .space, .text "x", .text "2.5", .space, .text "1e3"]
    lookupCommand "<" = some (.compare .less) ∧ lookupCommand ">" = some (.compare .greater) ∧
      (operands (Node.clauses setting children) {}).1.length = 3 ∧
      ((operands (Node.clauses setting children) {}).1.map Double.exact).Pairwise (· < ·) ∧
      (builtin setting ">" (Node.clauses setting children.reverse) {}).1 = "true" ∧
      ∃ b, Clause.verdict ⟨.command "<" children, (Node.command "<" children).render setting⟩ {} =
        some b := by
  intro setting children
  have found : lookupCommand "<" = some (.compare .less) := by decide +kernel
  have found' : lookupCommand ">" = some (.compare .greater) := by decide +kernel
  have ascend : (builtin setting "<" (Node.clauses setting children) {}).1 = "true" := by
    decide +kernel
  obtain ⟨-, ordered, -, -, reversed, -, -, verdict⟩ := comparison_global found children {}
  refine ⟨found, found', by decide +kernel, (ordered (by decide)).mp ascend, ?_,
    verdict rfl (by decide)⟩
  exact (reversed (delegates_standard _) ">" found').trans ascend

end TexMarkup
