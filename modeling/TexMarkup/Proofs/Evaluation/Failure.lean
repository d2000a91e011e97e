import Mathlib.Tactic.ByContra
import TexMarkup.Command.Table
import TexMarkup.Evaluation.Choice
import TexMarkup.Evaluation.Reference

/-!
# How commands fail

A command of the table is told apart by its failures: one that is known never fails as
unknown, none of them finds itself too deep, and a failure that names a command names
the one that failed. Warnings hold failures as texts only, and the texts are different
enough to tell these two kinds from all others.

## Main definitions

* `CommandError.ArisesIn`: the failures of a known command.
* `CommandError.GivenTo`: the failures of any command.
* `FailsIn`: a result that is there or a failure of this kind.

## Main results

* `Arithmetic.failsIn_apply`, `NumericFunction.failsIn_apply`, `Percentage.failsIn_apply`,
  `Logic.failsIn_apply`, `failsIn_formatNumber`, `failsIn_checkedUri`: what is calculated
  fails in this way only.
* `CommandError.exists_eq_tooDeep`, `CommandError.take_message_ne`: failures from their texts.
-/

namespace TexMarkup

/-- The command that a failure names. -/
def CommandError.command? : CommandError → Option String
  | missingNumber command | notBoolean command _ | arity command _ _ | missingUri command
  | invalidUri command _ => some command
  | unknownCommand _ | nonNumeric | complex | invalidEmail _ | missingId _ | invalidId _
  | unknownEntity _ _ | missingUser | unknownUser _ | tooDeep _ => none

/-- The failure is one that a command of the table with this name can have. -/
def CommandError.ArisesIn (e : CommandError) (name : String) : Prop :=
  match e with
  | unknownCommand _ | tooDeep _ => False
  | e => ∀ command ∈ e.command?, command = name

/-- The failure is one that the table gives to a command of this name, which it may not
know. -/
def CommandError.GivenTo (e : CommandError) (name : String) : Prop :=
  if isKnownCommand name then e.ArisesIn name else e = unknownCommand name

/-- An error that names a command arises in it. -/
theorem CommandError.arisesIn_of_command? {e : CommandError} {name : String}
    (named : e.command? = some name) : e.ArisesIn name := by
  cases e <;> cases named <;> exact fun command same => (Option.some.inj same).symm

/-- If there is no result, it is for a failure of a known command of this name. -/
def FailsIn {α : Type} (name : String) (result : Except CommandError α) : Prop :=
  ∀ e, result = .error e → e.ArisesIn name

/-! ## Calculations -/

namespace FailsIn

variable {α β : Type} {name : String} {e : CommandError} {result : Except CommandError α}

theorem ok (x : α) : FailsIn name (.ok x) :=
  nofun

theorem error (h : e.ArisesIn name) : FailsIn name (.error e : Except CommandError α) := by
  rintro e' ⟨⟩
  exact h

theorem named (h : e.command? = some name) : FailsIn name (.error e : Except CommandError α) :=
  error (CommandError.arisesIn_of_command? h)

/-- A calculation of two parts fails as one of them does. -/
theorem bind {next : α → Except CommandError β} (h : FailsIn name result)
    (h' : ∀ x, FailsIn name (next x)) : FailsIn name (result >>= next) := by
  cases result with
  | ok x => exact h' x
  | error e => exact error (h e rfl)

theorem map (f : α → β) (h : FailsIn name result) : FailsIn name (result.map f) := by
  cases result with
  | ok x => exact ok (f x)
  | error e => exact error (h e rfl)

theorem foldlM {step : β → α → Except CommandError β} (h : ∀ b x, FailsIn name (step b x))
    (xs : List α) (b : β) : FailsIn name (xs.foldlM step b) := by
  induction xs generalizing b with
  | nil => exact ok b
  | cons x xs ih => exact (h b x).bind ih

end FailsIn

variable {name : String} {xs : List Double}

theorem failsIn_foldOperands {step : Double → Double → Calculation}
    (h : ∀ a b, FailsIn name (step a b)) (xs : List Double) :
    FailsIn name (foldOperands name step xs) := by
  cases xs with
  | nil => exact .named rfl
  | cons x xs => exact .foldlM h xs x

/-- A power only fails where it is not real. -/
theorem failsIn_power (base exponent : Double) : FailsIn name (power base exponent) := by
  unfold power
  split
  · exact .error nofun
  · exact .ok _

theorem Arithmetic.failsIn_apply (op : Arithmetic) (xs : List Double) :
    FailsIn name (op.apply name xs) := by
  have folded (step : Double → Double → Double) (xs : List Double) :
      FailsIn name (foldOperands name (fun a b => .ok (step a b)) xs) :=
    failsIn_foldOperands (fun a b => .ok _) xs
  cases op with
  | add | multiply => exact .ok _
  | subtract =>
    match xs with
    | [x] => exact .ok _
    | [] => exact folded Double.sub []
    | x :: y :: xs => exact folded Double.sub (x :: y :: xs)
  | divide =>
    match xs with
    | [x] => exact .ok _
    | [] => exact folded Double.div []
    | x :: y :: xs => exact folded Double.div (x :: y :: xs)
  | modulo => exact folded Double.flooredMod xs
  | power => exact failsIn_foldOperands failsIn_power xs

/-- A number of a domain outside of which results are not real. -/
theorem failsIn_domain (outside : Double → Bool) (x : Double) :
    FailsIn name (if outside x then .error .complex else .ok x : Calculation) := by
  split
  · exact .error nofun
  · exact .ok _

theorem failsIn_ofFirst {f : Double → Calculation} (h : ∀ x, FailsIn name (f x))
    (xs : List Double) :
    FailsIn name (NumericFunction.ofFirst name f xs) := by
  cases xs with
  | nil => exact .named rfl
  | cons x xs => exact h x

/-- Outside of its domain a function is not real, and without operands it names its command. -/
theorem NumericFunction.failsIn_apply [SpecialFunctions] (f : NumericFunction) (xs : List Double) :
    FailsIn name (f.apply name xs) := by
  have total (g : Double → Double) : FailsIn name (ofFirst name (fun x => .ok (g x)) xs) :=
    failsIn_ofFirst (fun x => .ok _) xs
  have within (outside : Double → Bool) (g : Double → Double) : FailsIn name
      (ofFirst name (fun x => (if outside x then .error .complex else .ok x : Calculation).map g)
        xs) :=
    failsIn_ofFirst (fun x => (failsIn_domain outside x).map g) xs
  have positive (x : Double) : FailsIn name (nonNegative x) :=
    failsIn_domain (fun x => x.less (.zero false)) x
  cases f with
  | asin | acos | atanh => exact within (fun x => Double.one.less x.abs) _
  | sqrt | ln | log2 | log10 => exact within (fun x => x.less (.zero false)) _
  | acosh => exact within (fun x => x.less .one) _
  | log =>
    match xs with
    | [] => exact .named rfl
    | [x] => exact (positive x).map _
    | base :: x :: _ => exact (positive x).bind fun x => (positive base).bind fun base => .ok _
  | scale =>
    match xs with
    | [] | [_] => exact .named rfl
    | fraction :: exponent :: _ => exact .ok _
  | hypot =>
    cases xs with
    | nil => exact .named rfl
    | cons x xs => exact .ok _
  | sin | cos | tan | atan | sinh | cosh | tanh | asinh | erf | erfc | gamma | logGamma
  | toRadians | toDegrees => exact total _

theorem Percentage.failsIn_apply (op : Percentage) (xs : List Double) :
    FailsIn name (op.apply name xs) := by
  unfold apply
  split
  · exact .named rfl
  · exact failsIn_foldOperands (fun a b => .ok _) xs

theorem Logic.failsIn_apply (op : Logic) (bs : List Bool) : FailsIn name (op.apply name bs) := by
  cases op with
  | not =>
    match bs with
    | [b] => exact .ok _
    | [] | _ :: _ :: _ => exact .named rfl
  | and | or | xor | nand | nor | xnor => exact .ok _

theorem failsIn_formatNumber (x : Double) : FailsIn name (formatNumber x) := by
  unfold formatNumber
  split
  · exact .ok _
  · exact .error nofun

/-- A target that is refused is blamed on the command that has it. -/
theorem failsIn_checkedUri [AddressReader] (uri : String) : FailsIn name (checkedUri name uri) := by
  unfold checkedUri
  split
  · split
    · exact .ok _
    · exact .named rfl
  · exact .named rfl

/-! ## Texts of failures -/

/-- The text begins with the name of a command and a colon. -/
def BlamesCommand (text command : String) : Prop :=
  ∃ rest, text.toList = command.toList ++ ':' :: rest

theorem BlamesCommand.append {text command : String} (h : BlamesCommand text command)
    (more : String) : BlamesCommand (text ++ more) command := by
  obtain ⟨rest, begins⟩ := h
  exact ⟨rest ++ more.toList, by rw [String.toList_append, begins, List.append_assoc,
    List.cons_append]⟩

theorem blamesCommand (command : String) {text : String} (colon : text.toList.head? = some ':') :
    BlamesCommand (command ++ text) command := by
  obtain ⟨rest, begins⟩ := List.head?_eq_some_iff.mp colon
  exact ⟨rest, by rw [String.toList_append, begins]⟩

namespace CommandError

variable {e : CommandError} {name command : String} {limit : Nat}

/-- The text of an error that names a command begins with the name and a colon. -/
theorem blamesCommand_message (named : e.command? = some command) :
    BlamesCommand e.message command := by
  cases e <;> cases named
  case missingNumber => exact blamesCommand command (by decide)
  case notBoolean found => exact ((blamesCommand command (by decide)).append found).append _
  case arity expected got =>
    exact (((blamesCommand command (by decide)).append _).append _).append _
  case missingUri => exact blamesCommand command (by decide)
  case invalidUri uri => exact (blamesCommand command (by decide)).append uri

/-- The first letters of a failure that names no command. -/
private theorem take_message (unnamed : e.command? = none)
    (isKnown : ∀ name, e ≠ unknownCommand name) (isShallow : ∀ limit, e ≠ tooDeep limit) :
    e.message.toList.take 9 ≠ "unknown c".toList ∧ e.message.toList.head? ≠ some 'c' := by
  cases e with
  | unknownCommand name => exact absurd rfl (isKnown name)
  | tooDeep limit => exact absurd rfl (isShallow limit)
  | missingNumber | notBoolean | arity | missingUri | invalidUri => cases unnamed
  | nonNumeric | complex | missingUser => decide
  | missingId kind | invalidId kind => cases kind <;> decide
  | invalidEmail address =>
    show ("mailto: error: invalid e-mail address " ++ address).toList.take 9 ≠ _ ∧
      ("mailto: error: invalid e-mail address " ++ address).toList.head? ≠ _
    rw [String.toList_append]
    exact ⟨by simp, by simp⟩
  | unknownUser name =>
    show ("unknown user " ++ name).toList.take 9 ≠ _ ∧ ("unknown user " ++ name).toList.head? ≠ _
    rw [String.toList_append]
    exact ⟨by simp, by simp⟩
  | unknownEntity kind id =>
    show ("unknown " ++ kind.singular ++ " ID " ++ toString id).toList.take 9 ≠ _ ∧
      ("unknown " ++ kind.singular ++ " ID " ++ toString id).toList.head? ≠ _
    rw [String.toList_append, String.toList_append]
    cases kind <;> exact ⟨by simp [EntityKind.singular], by simp⟩

/-- Unknown commands are named at the end of their text. -/
theorem toList_unknownCommand (name : String) :
    (unknownCommand name).message.toList = "unknown command ".toList ++ name.toList :=
  String.toList_append

theorem toList_tooDeep (limit : Nat) : (tooDeep limit).message.toList =
    "commands nested deeper than ".toList ++ Nat.toDigits 10 limit ++ " levels".toList := by
  show ("commands nested deeper than " ++ toString limit ++ " levels").toList = _
  have digits : (toString limit).toList = Nat.toDigits 10 limit := Nat.toList_repr
  rw [String.toList_append, String.toList_append, digits]

/-- The text about the depth blames no command. -/
private theorem colon_not_mem_tooDeep (limit : Nat) : ':' ∉ (tooDeep limit).message.toList := by
  rw [toList_tooDeep, List.mem_append, List.mem_append]
  rintro ((mem | mem) | mem)
  · exact absurd mem (by decide)
  · exact absurd (Nat.isDigit_of_mem_toDigits (by decide) (by decide) mem) (by decide)
  · exact absurd mem (by decide)

/-- A command past the limit is the only failure with such a text. -/
theorem exists_eq_tooDeep (same : e.message = (tooDeep limit).message) :
    ∃ limit', e = tooDeep limit' := by
  have head : e.message.toList.head? = some 'c' := by
    rw [same, toList_tooDeep]
    rfl
  by_contra! isShallow
  cases named : e.command? with
  | some command =>
    obtain ⟨rest, begins⟩ := blamesCommand_message named
    apply colon_not_mem_tooDeep limit
    rw [← same, begins]
    exact List.mem_append_right _ List.mem_cons_self
  | none =>
    refine (take_message named (fun name isUnknown => ?_) isShallow).2 head
    rw [isUnknown, toList_unknownCommand] at head
    exact absurd head (by simp)

/-- No name of the table begins as texts about unknown commands do. -/
theorem take_ne_of_isKnownCommand (known : isKnownCommand name = true) :
    name.toList.take 3 ≠ "unk".toList := by
  intro begins
  have noName : ∀ entry ∈ commandTable, entry.1.toList.take 3 ≠ "unk".toList := by decide +kernel
  obtain ⟨handler, found⟩ := Option.isSome_iff_exists.mp known
  refine noName _ (mem_commandTable found) ?_
  show (String.ofList _).toList.take 3 = _
  rw [String.toList_ofList, ← List.map_take, begins]
  decide

private theorem take_of_take_append {cs rest : List Char}
    (begins : (cs ++ ':' :: rest).take 9 = "unknown c".toList) : cs.take 3 = "unk".toList := by
  match cs with
  | [] | [_] | [_, _] => simp at begins
  | _ :: _ :: _ :: _ =>
    have first := congrArg (List.take 3) begins
    exact first.trans (by decide)

/-- The text of a failure of a known command never begins as one about an unknown command
does. -/
theorem take_message_ne (known : isKnownCommand name = true) (arises : e.ArisesIn name) :
    e.message.toList.take 9 ≠ "unknown c".toList := by
  have isKnown : ∀ name, e ≠ unknownCommand name := by
    rintro name rfl
    exact arises
  have isShallow : ∀ limit, e ≠ tooDeep limit := by
    rintro limit rfl
    exact arises
  cases named : e.command? with
  | none => exact (take_message named isKnown isShallow).1
  | some command =>
    have own : command = name := by
      cases e <;> first | exact arises command named | cases named
    subst own
    intro begins
    obtain ⟨rest, written⟩ := blamesCommand_message named
    rw [written] at begins
    exact take_ne_of_isKnownCommand known (take_of_take_append begins)

end CommandError

end TexMarkup
