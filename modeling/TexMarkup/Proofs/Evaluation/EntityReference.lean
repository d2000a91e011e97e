import TexMarkup.Proofs.Evaluation.Once
import TexMarkup.Proofs.Number.Natural

/-!
# Which references reach the host

A reference to an entity goes by the first text among its children. The host is asked about
it if the text is a numeral below `2 ^ 64`, once and with the number, and otherwise it is not
asked at all. None of the children is rendered.

## Main definitions

* `NumeralOf`: a text of digits that denotes a number.
* `EntityRun`: what becomes of a reference to an entity.

## Main results

* `entityId?_eq_some_iff`: the numerals that are accepted.
* `builtin_entity_iff`: the command of the table.
* `entityReference_validated`: commands, trees and whole documents.
-/

namespace TexMarkup

/-- The text is a numeral of the number: one or more digits from `0` to `9`, zeros in front
among them. -/
def NumeralOf (text : String) (n : Nat) : Prop :=
  Digits text.toList ∧ Nat.ofDigitChars 10 text.toList 0 = n

/-- The session after the host has been asked. -/
def Session.asked (s : Session) (r : Reference) : Session :=
  { s with lookups := s.lookups ++ [r] }

/-- What becomes of a reference to an entity with these children: the result and the session
after it. -/
inductive EntityRun (setting : Setting) (kind : EntityKind) (name : String) (children : List Node)
    (s : Session) : String × Session → Prop where
  /-- No child is a text. -/
  | missing (noText : children.findSome? Node.asText? = none) :
      EntityRun setting kind name children s (fail name (.missingId kind) s)
  /-- The first text is no numeral, or it is one that is too great. -/
  | invalid {text : String} (first : children.findSome? Node.asText? = some text)
      (great : ∀ id, NumeralOf text id → 2 ^ 64 ≤ id) :
      EntityRun setting kind name children s (fail name (.invalidId kind) s)
  /-- There is nobody to ask. -/
  | plain {text : String} {id : Nat} (first : children.findSome? Node.asText? = some text)
      (numeral : NumeralOf text id) (small : id < 2 ^ 64)
      (noHost : setting.commander.resolver = none) :
      EntityRun setting kind name children s (plainEntityLink setting.options kind id, s)
  /-- The host is asked and has a fragment. -/
  | shown {text html : String} {id : Nat} {resolver : Resolver}
      (first : children.findSome? Node.asText? = some text) (numeral : NumeralOf text id)
      (small : id < 2 ^ 64) (host : setting.commander.resolver = some resolver)
      (answer : resolver.entity kind id = some html) :
      EntityRun setting kind name children s (html, s.asked (.entity kind id))
  /-- The host is asked and has none. -/
  | unknown {text : String} {id : Nat} {resolver : Resolver}
      (first : children.findSome? Node.asText? = some text) (numeral : NumeralOf text id)
      (small : id < 2 ^ 64) (host : setting.commander.resolver = some resolver)
      (answer : resolver.entity kind id = none) :
      EntityRun setting kind name children s
        (fail name (.unknownEntity kind id) (s.asked (.entity kind id)))

/-! ## Numerals -/

theorem entityId?_eq_some_iff {text : String} {id : Nat} :
    entityId? text = some id ↔ NumeralOf text id ∧ id < 2 ^ 64 := by
  rw [entityId?, Option.filter_eq_some_iff, Decimal.natural?_eq_some_iff, decide_eq_true_eq]
  rfl

theorem entityId?_eq_none_iff {text : String} :
    entityId? text = none ↔ ∀ id, NumeralOf text id → 2 ^ 64 ≤ id := by
  constructor
  · intro none id numeral
    by_contra small
    have some := entityId?_eq_some_iff.mpr ⟨numeral, Nat.lt_of_not_le small⟩
    exact Option.some_ne_none id (some.symm.trans none)
  · intro great
    by_contra some
    obtain ⟨id, some⟩ := Option.ne_none_iff_exists'.mp some
    obtain ⟨numeral, small⟩ := entityId?_eq_some_iff.mp some
    exact absurd (great id numeral) (Nat.not_le.mpr small)

/-- A numeral is the number as it is written, behind zeros. -/
theorem NumeralOf.exists_zeros {text : String} {n : Nat} (numeral : NumeralOf text n) :
    ∃ zeros, text.toList = List.replicate zeros '0' ++ (toString n).toList := by
  obtain ⟨digits, value⟩ := numeral
  obtain ⟨zeros, split⟩ := exists_zeros_append_toDigits digits
  refine ⟨zeros, ?_⟩
  rw [Nat.toString_eq_ofList_toDigits, String.toList_ofList, ← value]
  exact split

theorem head?_toString_ne_zero {n : Nat} (pos : 0 < n) : (toString n).toList.head? ≠ some '0' := by
  rw [Nat.toString_eq_ofList_toDigits, String.toList_ofList]
  exact head?_toDigits_ne_zero pos

/-! ## Commands -/

variable {setting : Setting} {kind : EntityKind} {name : String}

/-- The depth makes no difference to a reference. -/
theorem EntityRun.lower {children : List Node} {s : Session} {result : String × Session}
    (outcome : EntityRun setting kind name children { s with depth := s.depth + 1 } result) :
    EntityRun setting kind name children s
      (result.1, { result.2 with depth := result.2.depth - 1 }) := by
  cases outcome with
  | missing noText => exact .missing noText
  | invalid first great => exact .invalid first great
  | plain first numeral small noHost => exact .plain first numeral small noHost
  | shown first numeral small host answer => exact .shown first numeral small host answer
  | unknown first numeral small host answer => exact .unknown first numeral small host answer

theorem reference?_eq_entity {node : Node} {id : Nat}
    (asks : node.reference? = some (.entity kind id)) :
    ∃ name children text, node = .command name children ∧
      lookupCommand name = some (.entity kind) ∧ children.findSome? Node.asText? = some text ∧
        NumeralOf text id ∧ id < 2 ^ 64 := by
  cases node with
  | text content => cases asks
  | space => cases asks
  | command name children =>
    obtain ⟨handler, found, asks⟩ := Option.bind_eq_some_iff.mp asks
    cases handler with
    | entity kind' =>
      obtain ⟨id', given, same⟩ := Option.map_eq_some_iff.mp asks
      cases same
      obtain ⟨text, first, numeral⟩ := Option.bind_eq_some_iff.mp given
      exact ⟨name, children, text, rfl, found, first, entityId?_eq_some_iff.mp numeral⟩
    | user =>
      obtain ⟨user, -, same⟩ := Option.map_eq_some_iff.mp asks
      cases same
    | _ => cases asks

section Commands

variable [AddressReader] [SpecialFunctions]

theorem builtin_entity_iff (found : lookupCommand name = some (.entity kind))
    (clauses : List Clause) (s : Session) (result : String × Session) :
    builtin setting name clauses s = result ↔
      EntityRun setting kind name (clauses.map Clause.node) s result := by
  have run : builtin setting name clauses s =
      (entityReference setting kind clauses).orMarker name s := by
    rw [builtin, found]
    rfl
  have first : firstText? clauses = (clauses.map Clause.node).findSome? Node.asText? := by
    rw [firstText?, List.findSome?_map]
    rfl
  rw [run, entityReference, first]
  constructor
  · rintro rfl
    cases first : (clauses.map Clause.node).findSome? Node.asText? with
    | none => exact .missing first
    | some text =>
      simp only
      cases numeral : entityId? text with
      | none => exact .invalid first (entityId?_eq_none_iff.mp numeral)
      | some id =>
        obtain ⟨numeral, small⟩ := entityId?_eq_some_iff.mp numeral
        simp only [entityLink]
        cases host : setting.commander.resolver with
        | none => exact .plain first numeral small host
        | some resolver =>
          simp only
          cases answer : resolver.entity kind id with
          | none => exact .unknown first numeral small host answer
          | some html => exact .shown first numeral small host answer
  · intro outcome
    cases outcome with
    | missing noText => rw [noText]; rfl
    | invalid first great =>
      simp only [first, entityId?_eq_none_iff.mpr great]
      rfl
    | plain first numeral small noHost =>
      simp only [first, entityId?_eq_some_iff.mpr ⟨numeral, small⟩, entityLink, noHost]
      rfl
    | shown first numeral small host answer =>
      simp only [first, entityId?_eq_some_iff.mpr ⟨numeral, small⟩, entityLink, host, answer]
      rfl
    | unknown first numeral small host answer =>
      simp only [first, entityId?_eq_some_iff.mpr ⟨numeral, small⟩, entityLink, host, answer]
      rfl

theorem render_entity_iff (found : lookupCommand name = some (.entity kind)) (children : List Node)
    (s : Session) (noCustom : setting.commander.custom name = none)
    (fits : s.depth < setting.options.maxDepth) (result : String × Session) :
    (Node.command name children).render setting s = result ↔
      EntityRun setting kind name children s result := by
  have outcome : EntityRun setting kind name children s
      ((Node.command name children).render setting s) := by
    have deeper := (builtin_entity_iff found (Node.clauses setting children)
      { s with depth := s.depth + 1 } (builtin setting name _ _)).mp rfl
    rw [Node.map_node_clauses] at deeper
    rw [Node.render_of_noCustom noCustom fits]
    exact deeper.lower
  constructor
  · rintro rfl
    exact outcome
  · -- Both outcomes are that of the command of the table, so there is only one.
    intro outcome'
    have only (result : String × Session)
        (outcome : EntityRun setting kind name children s result) :
        builtin setting name (Node.clauses setting children) s = result :=
      (builtin_entity_iff found _ s result).mpr
        ((Node.map_node_clauses setting children).symm ▸ outcome)
    exact (only _ outcome).symm.trans (only result outcome')

/-- A reference to an entity does exactly this, as a command of the table whatever its clauses
render to, and as a tree that is not too deep: it shows the fragment of the host, which has
been asked once, or the plain link where there is no host, if the first text among its
children is a numeral below `2 ^ 64`; and otherwise it fails and asks nothing. So whatever a
host has been asked about in a document is named in this way by one of its commands. In a
link the number stands as it is written, which is the numeral without the zeros in front of
it. -/
theorem entityReference_validated (found : lookupCommand name = some (.entity kind)) :
    (∀ (setting : Setting) (clauses : List Clause) (s : Session) (result : String × Session),
      builtin setting name clauses s = result ↔
        EntityRun setting kind name (clauses.map Clause.node) s result) ∧
    (∀ (setting : Setting) (children : List Node) (s : Session) (result : String × Session),
      setting.commander.custom name = none → s.depth < setting.options.maxDepth →
        ((Node.command name children).render setting s = result ↔
          EntityRun setting kind name children s result)) ∧
    (∀ (resolver : Resolver) (options : Options) (document : Document) (kind : EntityKind)
        (id : Nat),
      .entity kind id ∈ (renderDocument ⟨.actionable resolver, options⟩ document).lookups →
        ∃ name children text, .command name children ∈ document.walk ∧
          lookupCommand name = some (.entity kind) ∧
          children.findSome? Node.asText? = some text ∧ NumeralOf text id ∧ id < 2 ^ 64) ∧
    ∀ (text : String) (id : Nat), NumeralOf text id →
      (∃ zeros, text.toList = List.replicate zeros '0' ++ (toString id).toList) ∧
        (0 < id → (toString id).toList.head? ≠ some '0') := by
  refine ⟨fun setting clauses s result => builtin_entity_iff found clauses s result,
    fun setting children s result noCustom fits =>
      render_entity_iff found children s noCustom fits result, ?_,
    fun text id numeral => ⟨numeral.exists_zeros, head?_toString_ne_zero⟩⟩
  intro resolver options document kind id asked
  have named := lookups_le_references (delegatesOnce_actionable resolver options) document
  obtain ⟨node, mem, asks⟩ := List.mem_filterMap.mp
    (Multiset.mem_coe.mp (Multiset.mem_of_le named (Multiset.mem_coe.mpr asked)))
  obtain ⟨name, children, text, rfl, found, numeral⟩ := reference?_eq_entity asks
  exact ⟨name, children, text, mem, found, numeral⟩

end Commands

/-- The zeros in front do not count, the command and the text around the numeral do nothing, and
the first number that is too great is refused. -/
theorem entityReference_validated_zeros :
    let resolver : Resolver :=
      ⟨fun _ id => if id = 7 then some "<b>seven</b>" else none, fun _ => none⟩
    let setting : Setting := ⟨.actionable resolver, {}⟩
    let children : List Node := [.space, .command "?" [.text "1"], .text "007", .text "8"]
    let document : Document :=
      ⟨[⟨[.command "b" [.command "tag_id" children],
        .command "tag_id" [.text "18446744073709551616"],
        .command "tag_id" [.text "18446744073709551615"], .command "tag_id" [.text "+7"]]⟩]⟩
    lookupCommand "tag_id" = some (.entity .tag) ∧
      (Node.command "tag_id" children).render setting {} =
        ("<b>seven</b>", { lookups := [.entity .tag 7] }) ∧
      builtin ⟨.standard, {}⟩ "tag_id" (Node.clauses ⟨.standard, {}⟩ children) {} =
        ("<a href=\"/tags/7\">Tag #7</a>", {}) ∧
      (renderDocument setting document).lookups =
        [.entity .tag 7, .entity .tag 18446744073709551615] := by
  intro resolver setting children document
  have found : lookupCommand "tag_id" = some (.entity .tag) := by decide +kernel
  have numeral : NumeralOf "007" 7 := ⟨⟨by decide, by decide⟩, by decide⟩
  obtain ⟨table, tree, -, -⟩ := entityReference_validated found
  refine ⟨found, ?_, ?_, by decide +kernel⟩
  · exact (tree setting children {} _ rfl (by decide)).mpr
      (.shown rfl numeral (by decide) (rfl : setting.commander.resolver = some resolver) rfl)
  · have plain := (table ⟨.standard, {}⟩ (Node.clauses ⟨.standard, {}⟩ children) {} _).mpr
      (.plain rfl numeral (by decide) rfl)
    have written : plainEntityLink {} .tag 7 = "<a href=\"/tags/7\">Tag #7</a>" := by decide +kernel
    rw [plain, written]

end TexMarkup
