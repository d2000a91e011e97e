import Mathlib.Data.List.TakeWhile

/-!
# Runs

A run of elements that satisfy a test is split off in front of the first element that does
not. So a list is cut at the first occurrence of an element.

## Main results

* `takeWhile_dropWhile_append`, `head?_dropWhile_eq_false`: where a run ends.
* `takeWhile_dropWhile_of_not_mem`, `of_dropWhile_eq_cons`: where an element occurs first.
-/

namespace TexMarkup

variable {α : Type} {test : α → Bool} {run rest xs : List α} {x y : α}

theorem takeWhile_dropWhile_append (all : ∀ x ∈ run, test x = true)
    (stops : ∀ x ∈ rest.head?, test x = false) :
    (run ++ rest).takeWhile test = run ∧ (run ++ rest).dropWhile test = rest := by
  rw [List.takeWhile_append_of_pos all, List.dropWhile_append_of_pos all]
  cases rest with
  | nil => simp
  | cons x rest => simp [stops x rfl]

theorem head?_dropWhile_eq_false (test : α → Bool) (xs : List α) :
    ∀ x ∈ (xs.dropWhile test).head?, test x = false := by
  intro x head
  have stops := List.head?_dropWhile_not test xs
  rw [head] at stops
  simpa using stops

/-- A list is cut at an element that does not occur before. -/
theorem takeWhile_dropWhile_of_not_mem [DecidableEq α] (notIn : x ∉ run) (rest : List α) :
    (run ++ x :: rest).takeWhile (· != x) = run ∧
      (run ++ x :: rest).dropWhile (· != x) = x :: rest := by
  refine takeWhile_dropWhile_append ?_ (by simp)
  intro y mem
  rw [bne_iff_ne]
  rintro rfl
  exact notIn mem

/-- What is left at the cut begins with the element, which does not occur before. -/
theorem of_dropWhile_eq_cons [DecidableEq α] (found : xs.dropWhile (· != x) = y :: rest) :
    y = x ∧ x ∉ xs.takeWhile (· != x) ∧ xs = xs.takeWhile (· != x) ++ x :: rest := by
  have stops := head?_dropWhile_eq_false (· != x) xs y (by rw [found]; rfl)
  obtain rfl : y = x := by simpa using stops
  have outside : y ∉ xs.takeWhile (· != y) := fun mem => by
    simpa using List.mem_takeWhile_imp mem
  refine ⟨rfl, outside, ?_⟩
  rw [← found, List.takeWhile_append_dropWhile]

end TexMarkup
