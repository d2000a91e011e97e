import TexMarkup.Proofs.Evaluation.NumericOperand
import TexMarkup.Proofs.Number.Shortest

/-!
# Results as operands

Commands pass numbers to one another as texts. A finite number is written as a text that is read
as this number, only without the sign of zero, so a command that computes a number adds exactly
this number to the operands of the command around it; and if it fails, it adds none.

## Main definitions

* `Handler.calculation?`: what a command computes from its operands.
* `numericOutcome`: the number that it leaves, or how it fails.

## Main results

* `formatNumber_ofBits`, `formatNumber_eq_ok`, `formatNumber_eq_error`: the text of a number.
* `coerceNumber_marker`: a failed command is no operand.
* `operands_append`: the operands of clauses one after the other.
* `formatNumber_survives_nesting`: a number in a command in another one.
-/

namespace TexMarkup

/-- A number without the sign of zero, which is not written. -/
def Double.unsignedZero (x : Double) : Double :=
  if x.isZero then .zero false else x

/-- What a command computes from its operands, if it computes a number. -/
def Handler.calculation? [SpecialFunctions] (name : String) :
    Handler → Option (List Double → Calculation)
  | .constant value => some fun _ => .ok value
  | .arithmetic op => some (op.apply name)
  | .function f => some (f.apply name)
  | .percent op => some (op.apply name)
  | _ => none

/-- A number that can be written. -/
def finiteOnly (x : Double) : Calculation :=
  if x.isFinite then .ok x else .error .nonNumeric

/-- What a calculation comes to in a command at this depth: nothing is calculated past the limit,
and the result has to be a finite number. -/
def numericOutcome (limit depth : Nat) (result : Calculation) : Calculation :=
  if limit ≤ depth then .error (.tooDeep limit) else result.bind finiteOnly

variable {x : Double} {name : String}

/-! ## Texts of results -/

theorem Double.unsignedZero_finite (negative : Bool) (rank : Fin (2047 * 2 ^ 52)) :
    (finite negative rank).unsignedZero =
      if rank.val = 0 then zero false else finite negative rank := by
  by_cases isZero : rank.val = 0
  · rw [if_pos isZero]
    exact if_pos (beq_iff_eq.mpr isZero)
  · rw [if_neg isZero]
    exact if_neg (mt beq_iff_eq.mp isZero)

theorem Double.toBits_unsignedZero {bits : UInt64}
    (finite : bits.toNat % 2 ^ 63 < 2047 * 2 ^ 52) :
    (ofBits bits).unsignedZero.toBits = if bits.toNat % 2 ^ 63 = 0 then 0 else bits := by
  have same := toBits_ofBits finite
  rw [ofBits_of_lt finite] at same ⊢
  rw [unsignedZero_finite]
  split
  · rfl
  · exact same

theorem formatNumber_of_toText? {text : String} (written : x.toText? = some text) :
    formatNumber x = .ok text := by
  rw [formatNumber, written]

/-- A finite number is written as a text that is read as the same number. -/
theorem formatNumber_eq_ok (finite : x.isFinite = true) :
    ∃ text, formatNumber x = .ok text ∧ coerceNumber text = some x.unsignedZero := by
  match x, finite with
  | .finite negative rank, _ =>
    obtain ⟨text, written, -, -, read⟩ := Double.toText?_finite negative rank
    rw [← Double.unsignedZero_finite] at read
    exact ⟨text, formatNumber_of_toText? written, read⟩

/-- A finite pattern of bits is written in positional notation, as a shortest numeral, and the
numeral is read as the same pattern. -/
theorem formatNumber_ofBits {bits : UInt64} (finite : bits.toNat % 2 ^ 63 < 2047 * 2 ^ 52) :
    ∃ text, formatNumber (Double.ofBits bits) = .ok text ∧
      (∃ digits, Positional digits ∧ (text.toList = digits ∨ text.toList = '-' :: digits)) ∧
      (∃ d : Decimal, Denotes text.toList d.value ∧ (Double.ofBits bits).IsNearest d.value ∧
        d.IsShortest (2 ^ 63 ≤ bits.toNat) (bits.toNat % 2 ^ 63)) ∧
      (coerceNumber text).map Double.toBits =
        some (if bits.toNat % 2 ^ 63 = 0 then 0 else bits) := by
  have double := Double.ofBits_of_lt finite
  obtain ⟨text, written, shape, ⟨d, denotes, shortest⟩, read⟩ :=
    Double.toText?_finite (2 ^ 63 ≤ bits.toNat) ⟨bits.toNat % 2 ^ 63, finite⟩
  rw [← Double.unsignedZero_finite, ← double] at read
  rw [← double] at written
  have nearest := d.toDouble_isNearest
  rw [shortest.toDouble_eq, Double.ofRank_of_lt finite, ← double] at nearest
  refine ⟨text, formatNumber_of_toText? written, shape, ⟨d, denotes, nearest, shortest⟩, ?_⟩
  rw [read, Option.map_some, Double.toBits_unsignedZero finite]

theorem formatNumber_eq_error (infinite : x.isFinite = false) :
    formatNumber x = .error .nonNumeric := by
  rw [formatNumber, Double.toText?_of_not_finite infinite]

/-- What is written of the result of a calculation, and when it fails. -/
theorem bind_formatNumber (result : Calculation) :
    (∀ x, result.bind finiteOnly = .ok x → x.isFinite = true ∧
      ∃ text, formatNumber x = .ok text ∧ (result >>= formatNumber) = .ok text) ∧
    ∀ e, result.bind finiteOnly = .error e → (result >>= formatNumber) = .error e := by
  cases result with
  | error e => exact ⟨fun x same => (by cases same), fun e' same => Except.error.inj same ▸ rfl⟩
  | ok x =>
    have bound : (Except.ok x : Calculation).bind finiteOnly = finiteOnly x := rfl
    have written : ((Except.ok x : Calculation) >>= formatNumber) = formatNumber x := rfl
    rw [bound, written, finiteOnly]
    cases finite : x.isFinite with
    | true =>
      refine ⟨fun x' same => ?_, fun e same => by cases same⟩
      obtain rfl := Except.ok.inj same
      obtain ⟨text, written, -⟩ := formatNumber_eq_ok finite
      exact ⟨finite, text, written, written⟩
    | false =>
      refine ⟨fun x same => (by cases same), fun e same => ?_⟩
      obtain rfl := Except.error.inj same
      exact formatNumber_eq_error finite

/-- The marker of a failure has a blank inside, so it is no operand. -/
theorem coerceNumber_marker (e : CommandError) : coerceNumber e.marker = none := by
  -- The blank behind the name of the tag is inside whatever the message is.
  have opening : "<span style=\"color: red\">[" =
      "<span" ++ String.singleton ' ' ++ "style=\"color: red\">[" := by decide
  generalize rest : Html.escape e.message ++ "]</span>" = closing
  have marker : e.marker =
      "<span" ++ String.singleton ' ' ++ ("style=\"color: red\">[" ++ closing) :=
    calc e.marker = "<span style=\"color: red\">[" ++ Html.escape e.message ++ "]</span>" := rfl
      _ = "<span style=\"color: red\">[" ++ closing := by rw [String.append_assoc, rest]
      _ = "<span" ++ String.singleton ' ' ++ "style=\"color: red\">[" ++ closing :=
        congrArg (· ++ closing) opening
      _ = _ := String.append_assoc
  have some : isAllBlank ("style=\"color: red\">[" ++ closing) = false := by
    have notBlank : isBlank 's' = false := by decide
    simp [isAllBlank, notBlank]
  rw [marker]
  exact coerceNumber_eq_none_of_blank_inside (by decide) (by decide) some

/-! ## Operands of the command around -/

theorem operands_space {clause : Clause} (clauses : List Clause)
    (space : clause.node.isSpace = true) : operands (clause :: clauses) = operands clauses := by
  rw [operands, if_pos space]

/-- A clause that is no space adds its number, if it is one. -/
theorem operands_cons {clause : Clause} (clauses : List Clause)
    (noSpace : clause.node.isSpace = false) (s : Session) :
    operands (clause :: clauses) s =
      ((coerceNumber (clause.render s).1).toList ++ (operands clauses (clause.render s).2).1,
        (operands clauses (clause.render s).2).2) := by
  have rendered : clause.render s = ((clause.render s).1, (clause.render s).2) := rfl
  have later : operands clauses (clause.render s).2 = ((operands clauses (clause.render s).2).1,
      (operands clauses (clause.render s).2).2) := rfl
  rw [operands, noSpace, if_neg Bool.false_ne_true, Eval.bind_of_eq rendered, Eval.bind_of_eq later]
  cases coerceNumber (clause.render s).1 <;> rfl

theorem operands_append (before after : List Clause) (s : Session) :
    operands (before ++ after) s =
      ((operands before s).1 ++ (operands after (operands before s).2).1,
        (operands after (operands before s).2).2) := by
  induction before generalizing s with
  | nil => rfl
  | cons clause before ih =>
    cases space : clause.node.isSpace with
    | true => rw [List.cons_append, operands_space _ space, operands_space _ space, ih]
    | false =>
      rw [List.cons_append, operands_cons _ space, operands_cons _ space, ih, List.append_assoc]

section Commands

variable [AddressReader] [SpecialFunctions] {setting : Setting} {handler : Handler}
variable {calculation : List Double → Calculation}

theorem Node.clauses_append (setting : Setting) (nodes nodes' : List Node) :
    clauses setting (nodes ++ nodes') = clauses setting nodes ++ clauses setting nodes' := by
  rw [clauses_eq, clauses_eq, clauses_eq, Access.clauses, List.map_append]
  rfl

theorem Handler.exists_run_of_calculation? (computes : handler.calculation? name = some calculation)
    (setting : Setting) (clauses : List Clause) (s : Session) :
    ∃ s', (handler.run setting name clauses).run s =
      (calculation (operands clauses s).1 >>= formatNumber, s') := by
  have calculated (calculation : List Double → Calculation) :
      (calculate calculation clauses).run s =
        (calculation (operands clauses s).1 >>= formatNumber, (operands clauses s).2) := by
    rw [calculate_eq]
    exact Attempt.run_lift_bind rfl _
  cases handler <;> cases computes
  case constant value => exact ⟨s, rfl⟩
  all_goals exact ⟨_, calculated _⟩

/-- A command that computes a number leaves the text of the number, or the marker of its failure
and a warning. -/
theorem Node.render_of_calculation? (noCustom : setting.commander.custom name = none)
    (found : lookupCommand name = some handler)
    (computes : handler.calculation? name = some calculation) (children : List Node) (s : Session) :
    let run := (Node.command name children).render setting s
    let outcome := numericOutcome setting.options.maxDepth s.depth (calculation
      (operands (clauses setting children) { s with depth := s.depth + 1 }).1)
    (∀ x, outcome = .ok x → x.isFinite = true ∧ formatNumber x = .ok run.1) ∧
    ∀ e, outcome = .error e → run.1 = e.marker ∧
      ∃ warnings, run.2.warnings = warnings ++ [⟨some name, e.message⟩] := by
  intro run outcome
  by_cases deep : setting.options.maxDepth ≤ s.depth
  · have past : outcome = .error (.tooDeep setting.options.maxDepth) := if_pos deep
    have failed : run = fail name (.tooDeep setting.options.maxDepth) s := by
      show (Node.command name children).render setting s = _
      rw [Node.render]
      exact if_pos deep
    rw [past, failed]
    refine ⟨fun x isOk => (by cases isOk), fun e isError => ?_⟩
    obtain rfl := Except.error.inj isError
    exact ⟨rfl, _, rfl⟩
  · obtain ⟨s', computed⟩ := Handler.exists_run_of_calculation? computes setting
      (clauses setting children) { s with depth := s.depth + 1 }
    have ended : run = _ := Node.render_of_noCustom noCustom (Nat.lt_of_not_le deep)
    rw [builtin_of_run found computed] at ended
    have inside : outcome = _ := if_neg deep
    rw [inside, ended]
    generalize calculation
      (operands (clauses setting children) { s with depth := s.depth + 1 }).1 = result
    obtain ⟨ok, error⟩ := bind_formatNumber result
    refine ⟨fun x isOk => ?_, fun e isError => ?_⟩
    · obtain ⟨finite, text, written, whole⟩ := ok x isOk
      rw [whole]
      exact ⟨finite, written⟩
    · rw [error e isError]
      exact ⟨rfl, _, rfl⟩

/-- Numbers survive nesting exactly. A finite pattern of bits is written in positional notation, as
a numeral for a shortest decimal that is rounded to it, which is read as the same pattern, or as
that of the positive zero for both zeros. No other pattern is written. So a command that computes a
number and stands among the children of another one adds this number to the operands, and nothing
if it fails. -/
theorem formatNumber_survives_nesting :
    (∀ bits : UInt64,
      if bits.toNat % 2 ^ 63 < 2047 * 2 ^ 52 then
        ∃ text, formatNumber (Double.ofBits bits) = .ok text ∧
          (∃ digits, Positional digits ∧ (text.toList = digits ∨ text.toList = '-' :: digits)) ∧
          isNumeral text.toList = true ∧
          (∃ d : Decimal, Denotes text.toList d.value ∧ (Double.ofBits bits).IsNearest d.value ∧
            d.IsShortest (2 ^ 63 ≤ bits.toNat) (bits.toNat % 2 ^ 63)) ∧
          (coerceNumber text).map Double.toBits =
            some (if bits.toNat % 2 ^ 63 = 0 then 0 else bits)
      else formatNumber (Double.ofBits bits) = .error .nonNumeric) ∧
    ∀ (setting : Setting) (name : String) (handler : Handler)
      (calculation : List Double → Calculation), setting.commander.custom name = none →
      lookupCommand name = some handler → handler.calculation? name = some calculation →
      ∀ (before children after : List Node) (s : Session),
        let node := Node.command name children
        let earlier := operands (Node.clauses setting before) s
        let here := earlier.2
        let run := node.render setting here
        let later := operands (Node.clauses setting after) run.2
        let whole := operands (Node.clauses setting (before ++ node :: after)) s
        let outcome := numericOutcome setting.options.maxDepth here.depth (calculation
          (operands (Node.clauses setting children) { here with depth := here.depth + 1 }).1)
        (∀ x, outcome = .ok x →
          formatNumber x = .ok run.1 ∧ whole.1 = earlier.1 ++ [x.unsignedZero] ++ later.1) ∧
        ∀ e, outcome = .error e →
          run.1 = e.marker ∧ whole.1 = earlier.1 ++ later.1 ∧
            ∃ warnings, run.2.warnings = warnings ++ [⟨some name, e.message⟩] := by
  refine ⟨fun bits => ?_,
    fun setting name handler calculation noCustom found computes before children after s => ?_⟩
  · split
    case isTrue finite =>
      obtain ⟨text, written, shape, ⟨d, denotes, shortest⟩, read⟩ := formatNumber_ofBits finite
      have numeral := isNumeral_iff.mpr (numeral_iff_denotes.mpr ⟨d.value, denotes⟩)
      exact ⟨text, written, shape, numeral, ⟨d, denotes, shortest⟩, read⟩
    case isFalse infinite =>
      exact formatNumber_eq_error (Double.isFinite_ofBits_of_not_lt infinite)
  · intro node earlier here run later whole outcome
    have left := Node.render_of_calculation? noCustom found computes children here
    have split : whole.1 = earlier.1 ++ ((coerceNumber run.1).toList ++ later.1) := by
      have split := operands_append (Node.clauses setting before)
        (Node.clauses setting (node :: after)) s
      rw [← Node.clauses_append, Node.clauses, operands_cons _ rfl] at split
      exact congrArg Prod.fst split
    refine ⟨fun x isOk => ?_, fun e isError => ?_⟩
    · obtain ⟨finite, written⟩ := left.1 x isOk
      obtain ⟨text, written', read⟩ := formatNumber_eq_ok finite
      obtain rfl : run.1 = text := Except.ok.inj (written.symm.trans written')
      rw [read, Option.toList_some, ← List.append_assoc] at split
      exact ⟨written, split⟩
    · obtain ⟨marked, warned⟩ := left.2 e isError
      rw [marked, coerceNumber_marker, Option.toList_none, List.nil_append] at split
      exact ⟨marked, split, warned⟩

end Commands

/-- The sum of one tenth and two tenths, which is not three tenths, between a number and a word; and
the least positive double. -/
theorem formatNumber_survives_nesting_sum :
    let setting : Setting := .default
    let node : Node := .command "+" [.text "0.1", .space, .text "0.2"]
    lookupCommand "+" = some (.arithmetic .add) ∧
      (∃ text, formatNumber (Double.ofBits 1) = .ok text ∧
        (coerceNumber text).map Double.toBits = some 1) ∧
      (operands (Node.clauses setting ([.text "1"] ++ node :: [.text "x"])) {}).1 =
        [Double.one, Double.ofBits 0x3FD3333333333334] := by
  intro setting node
  have found : lookupCommand "+" = some (.arithmetic .add) := by decide +kernel
  obtain ⟨patterns, nested⟩ := formatNumber_survives_nesting
  have least := patterns 1
  rw [if_pos (by decide)] at least
  obtain ⟨text, written, -, -, -, read⟩ := least
  have noCustom : setting.commander.custom "+" = none := rfl
  have computes : (Handler.arithmetic .add).calculation? "+" = some (Arithmetic.add.apply "+") :=
    rfl
  obtain ⟨computed, -⟩ := nested setting "+" (.arithmetic .add) (Arithmetic.add.apply "+") noCustom
    found computes [.text "1"] [.text "0.1", .space, .text "0.2"] [.text "x"] {}
  obtain ⟨-, whole⟩ := computed (Double.ofBits 0x3FD3333333333334) (by decide +kernel)
  refine ⟨found, ⟨text, written, read⟩, whole.trans ?_⟩
  decide +kernel

end TexMarkup
