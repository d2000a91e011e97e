import TexMarkup.Lint
import TexMarkup.Proofs.Text.Decide
import TexMarkup.Proofs.Text.Distance

/-!
# Suggestions are nearest names

For an unknown command the one is suggested that is reached from its name by the fewest
edits, unless even that is too far off. Among names that are equally near the first one in
the alphabet is taken, so it does not matter in which order the names are looked at.

## Main definitions

* `ComesFirst`: how candidates with their distances are compared.
* `Nearest`: the best of some candidates.

## Main results

* `closestAmong_eq`: what is chosen among candidates.
* `suggestion_nearest`: the distance and the suggestion.
-/

namespace TexMarkup

/-- The first candidate is nearer, or as near and not behind in the alphabet. -/
def ComesFirst (a b : Nat × String) : Prop :=
  a.1 < b.1 ∨ a.1 = b.1 ∧ a.2 ≤ b.2

/-- Of the candidates none is nearer to the name, and of those that are as near none comes
before in the alphabet. -/
structure Nearest (candidates : List String) (name best : String) : Prop where
  mem : best ∈ candidates
  distance_le : ∀ other ∈ candidates, editDistance name best ≤ editDistance name other
  le : ∀ other ∈ candidates, editDistance name other = editDistance name best → best ≤ other

variable {candidates candidates' : List String} {name best best' : String}
variable {a b c : Nat × String}

/-! ## Comparing candidates -/

namespace ComesFirst

theorem refl (a : Nat × String) : ComesFirst a a :=
  .inr ⟨rfl, String.le_refl a.2⟩

theorem trans (h : ComesFirst a b) (h' : ComesFirst b c) : ComesFirst a c := by
  rcases h with h | ⟨h, le⟩ <;> rcases h' with h' | ⟨h', le'⟩
  · exact .inl (h.trans h')
  · exact .inl (h' ▸ h)
  · exact .inl (h ▸ h')
  · exact .inr ⟨h.trans h', String.le_trans le le'⟩

end ComesFirst

theorem nearer_spec (a b : Nat × String) :
    (nearer a b = a ∨ nearer a b = b) ∧ ComesFirst (nearer a b) a ∧ ComesFirst (nearer a b) b := by
  rw [nearer]
  split
  case isTrue better =>
    simp only [Bool.or_eq_true, decide_eq_true_eq, Bool.and_eq_true, beq_iff_eq] at better
    refine ⟨.inr rfl, ?_, .refl b⟩
    rcases better with less | ⟨same, before⟩
    · exact .inl less
    · exact .inr ⟨same, String.not_lt.mp (String.lt_asymm before)⟩
  case isFalse notBetter =>
    simp only [Bool.or_eq_true, decide_eq_true_eq, Bool.and_eq_true, beq_iff_eq, not_or,
      not_and] at notBetter
    refine ⟨.inl rfl, .refl a, ?_⟩
    rcases Nat.lt_or_eq_of_le (Nat.le_of_not_lt notBetter.1) with less | same
    · exact .inl less
    · exact .inr ⟨same, String.not_lt.mp (notBetter.2 same.symm)⟩

theorem foldl_nearer_spec (first : Nat × String) (rest : List (Nat × String)) :
    rest.foldl nearer first ∈ first :: rest ∧
      ∀ other ∈ first :: rest, ComesFirst (rest.foldl nearer first) other := by
  induction rest generalizing first with
  | nil => simpa using ComesFirst.refl first
  | cons next rest ih =>
    obtain ⟨chosen, before, before'⟩ := nearer_spec first next
    obtain ⟨mem, least⟩ := ih (nearer first next)
    have leastOfTwo := least _ List.mem_cons_self
    rw [List.foldl_cons]
    constructor
    · rcases List.mem_cons.mp mem with same | mem
      · rw [same]
        rcases chosen with chosen | chosen <;> simp [chosen]
      · exact List.mem_cons_of_mem _ (List.mem_cons_of_mem _ mem)
    · intro other mem
      rcases List.mem_cons.mp mem with rfl | mem
      · exact leastOfTwo.trans before
      · rcases List.mem_cons.mp mem with rfl | mem
        · exact leastOfTwo.trans before'
        · exact least other (List.mem_cons_of_mem _ mem)

/-! ## The best candidate -/

namespace Nearest

theorem congr (h : Nearest candidates name best)
    (same : ∀ candidate, candidate ∈ candidates ↔ candidate ∈ candidates') :
    Nearest candidates' name best where
  mem := (same best).mp h.mem
  distance_le other mem := h.distance_le other ((same other).mpr mem)
  le other mem := h.le other ((same other).mpr mem)

theorem of_comesFirst (mem : best ∈ candidates)
    (first : ∀ other ∈ candidates,
      ComesFirst (editDistance name best, best) (editDistance name other, other)) :
    Nearest candidates name best where
  mem := mem
  distance_le other mem := (first other mem).elim Nat.le_of_lt fun same => same.1.le
  le other mem same :=
    (first other mem).elim (fun less => absurd same (Nat.ne_of_gt less)) And.right

end Nearest

theorem exists_nearest (nonempty : candidates ≠ []) (name : String) :
    ∃ best, Nearest candidates name best := by
  cases candidates with
  | nil => exact absurd rfl nonempty
  | cons first rest =>
    obtain ⟨mem, least⟩ :=
      foldl_nearer_spec (withDistance name first) (rest.map (withDistance name))
    rw [← List.map_cons] at mem least
    obtain ⟨best, mem, chosen⟩ := List.mem_map.mp mem
    rw [← chosen] at least
    exact ⟨best, .of_comesFirst mem fun other mem => least _ (List.mem_map_of_mem mem)⟩

theorem Nearest.eq_of_comesFirst (h : Nearest candidates name best) (mem : best' ∈ candidates)
    (first : ComesFirst (withDistance name best') (withDistance name best)) : best' = best := by
  rcases first with less | ⟨same, le⟩
  · exact absurd (h.distance_le best' mem) (Nat.not_le_of_lt less)
  · exact String.le_antisymm le (h.le best' mem same)

/-- The best candidate is chosen, unless it is too far off. -/
theorem closestAmong_eq (h : Nearest candidates name best) :
    closestAmong candidates name =
      if editDistance name best ≤ max 1 (name.length / 3) then some best else none := by
  rw [closestAmong, Nat.max_comm]
  generalize max 1 (name.length / 3) = limit
  split
  case h_1 none =>
    have far := List.filter_eq_nil_iff.mp none _ (List.mem_map_of_mem h.mem)
    exact (if_neg fun near => far (decide_eq_true near)).symm
  case h_2 first rest some =>
    obtain ⟨mem, least⟩ := foldl_nearer_spec first rest
    rw [← some] at mem least
    obtain ⟨mem, near⟩ := List.mem_filter.mp mem
    obtain ⟨chosen, mem, same⟩ := List.mem_map.mp mem
    rw [← same] at near least ⊢
    have near : editDistance name chosen ≤ limit := of_decide_eq_true near
    have kept : withDistance name best ∈
        (candidates.map (withDistance name)).filter fun candidate => candidate.1 ≤ limit :=
      List.mem_filter.mpr ⟨List.mem_map_of_mem h.mem,
        decide_eq_true ((h.distance_le chosen mem).trans near)⟩
    obtain rfl := h.eq_of_comesFirst mem (least _ kept)
    exact (if_pos near).symm

/-! ## Distances and suggestions -/

/-- The distance of two texts is the least number of characters to insert, delete or replace
that turns one into the other. So it does not matter from which side it is measured, it is
zero between equal texts only, and a detour is never shorter. For a name the command at the
least distance is suggested, the first in the alphabet of several, if the distance is not
more than a third of the characters of the name, or one in any case. In which order the
commands are looked at makes no difference. -/
theorem suggestion_nearest :
    (∀ a b : String,
      IsLeast {n : Nat | Edits n a.toList b.toList} (editDistance a b) ∧
        editDistance a b = editDistance b a ∧
        (editDistance a b = 0 ↔ a = b) ∧
        ∀ c, editDistance a c ≤ editDistance a b + editDistance b c) ∧
      ∀ (name : String) (order : List String), order.Perm (commandTable.map Prod.fst) →
        ∃ best, Nearest (commandTable.map Prod.fst) (normalizeName name) best ∧
          closestCommand name =
            (if editDistance (normalizeName name) best ≤ max 1 ((normalizeName name).length / 3)
              then some best else none) ∧
          closestAmong order (normalizeName name) = closestCommand name := by
  constructor
  · intro a b
    have least (a b : String) : IsLeast {n : Nat | Edits n a.toList b.toList} (editDistance a b) :=
      charDistance_isLeast a.toList b.toList
    have le (a b : String) : editDistance a b ≤ editDistance b a :=
      (least a b).2 (least b a).1.symm
    refine ⟨least a b, Nat.le_antisymm (le a b) (le b a), ?_, fun c => ?_⟩
    · constructor
      · intro zero
        have none := (least a b).1
        rw [zero] at none
        exact String.toList_inj.mp (Edits.eq_of_zero none)
      · rintro rfl
        exact Nat.le_zero.mp ((least a a).2 (.none a.toList))
    · exact (least a c).2 ((least a b).1.trans (least b c).1)
  · intro name order perm
    have nonempty : commandTable.map Prod.fst ≠ [] := by decide +kernel
    obtain ⟨best, nearest⟩ := exists_nearest nonempty (normalizeName name)
    have inOrder := nearest.congr fun candidate => perm.mem_iff.symm
    refine ⟨best, nearest, closestAmong_eq nearest, ?_⟩
    exact (closestAmong_eq inOrder).trans (closestAmong_eq nearest).symm

/-- Several commands are one edit away, and the first of them in the alphabet is suggested
although it is looked at after the others. -/
theorem suggestion_nearest_tie :
    let order := (commandTable.map Prod.fst).reverse
    order.Perm (commandTable.map Prod.fst) ∧ order.idxOf "sup" < order.idxOf "s" ∧
      editDistance "su" "sup" = 1 ∧ Nearest (commandTable.map Prod.fst) "su" "s" ∧
      closestAmong order "su" = some "s" := by
  intro order
  have perm : order.Perm (commandTable.map Prod.fst) := List.reverse_perm _
  have normalized : normalizeName "su" = "su" := by decide +kernel
  have suggested : closestCommand "su" = some "s" := by decide +kernel
  obtain ⟨best, nearest, chosen, same⟩ := suggestion_nearest.2 "su" order perm
  rw [suggested, normalized] at chosen
  rw [suggested, normalized] at same
  rw [normalized] at nearest
  obtain rfl : best = "s" := by
    split at chosen
    · exact (Option.some.inj chosen).symm
    · cases chosen
  exact ⟨perm, by decide +kernel, by decide +kernel, nearest, same⟩

end TexMarkup
