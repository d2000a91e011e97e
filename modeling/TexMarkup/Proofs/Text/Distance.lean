import Mathlib.Data.List.Induction
import Mathlib.Order.Bounds.Basic
import TexMarkup.Text.Distance

/-!
# The distance of two texts

A text can be edited one character at a time. The distance of two texts, which is computed
row by row, is the least number of edits that lead from one to the other. A recursion on the
first characters lies between the two: every row holds its values for the prefixes of the
second text, read from their last characters back, and no edit changes it by more than one.

## Main definitions

* `Edit`, `Edits`: one edit, and so many edits in a row.
* `leastEdits`: the recursion on the first characters.

## Main results

* `distanceCells_eq`, `charDistance_eq`: the rows hold the values of the recursion.
* `leastEdits_isLeast`, `charDistance_isLeast`: no fewer edits are enough.
-/

namespace TexMarkup

/-- A character is inserted, deleted or replaced. -/
inductive Edit : List Char → List Char → Prop where
  | insert (before after : List Char) (c : Char) : Edit (before ++ after) (before ++ c :: after)
  | delete (before after : List Char) (c : Char) : Edit (before ++ c :: after) (before ++ after)
  | replace (before after : List Char) (c d : Char) :
    Edit (before ++ c :: after) (before ++ d :: after)

/-- So many edits lead from one text to the other. -/
inductive Edits : Nat → List Char → List Char → Prop where
  | none (cs : List Char) : Edits 0 cs cs
  | step {n : Nat} {as bs cs : List Char} : Edit as bs → Edits n bs cs → Edits (n + 1) as cs

/-- The least number of edits, by the characters with which the texts begin. -/
def leastEdits : List Char → List Char → Nat
  | [], bs => bs.length
  | as, [] => as.length
  | a :: as, b :: bs =>
    let replaced := if a = b then leastEdits as bs else leastEdits as bs + 1
    min (min replaced (leastEdits as (b :: bs) + 1)) (leastEdits (a :: as) bs + 1)

variable {as as' bs cs : List Char} {a b : Char} {m n : Nat}

theorem leastEdits_nil_left (bs : List Char) : leastEdits [] bs = bs.length := by
  rw [leastEdits]

theorem leastEdits_nil_right (as : List Char) : leastEdits as [] = as.length := by
  cases as <;> simp [leastEdits]

/-! ## Sequences of edits -/

/-- An insertion is undone by a deletion and a replacement by another one. -/
theorem Edit.symm (h : Edit as bs) : Edit bs as := by
  cases h with
  | insert before after c => exact .delete before after c
  | delete before after c => exact .insert before after c
  | replace before after c d => exact .replace before after d c

theorem Edit.cons (c : Char) (h : Edit as bs) : Edit (c :: as) (c :: bs) := by
  cases h with
  | insert before after d => exact .insert (c :: before) after d
  | delete before after d => exact .delete (c :: before) after d
  | replace before after d d' => exact .replace (c :: before) after d d'

theorem Edit.reverse (h : Edit as bs) : Edit as.reverse bs.reverse := by
  cases h with
  | insert before after c => simpa using Edit.insert after.reverse before.reverse c
  | delete before after c => simpa using Edit.delete after.reverse before.reverse c
  | replace before after c d => simpa using Edit.replace after.reverse before.reverse c d

namespace Edits

/-- Edits that follow each other add up. -/
theorem trans (h : Edits m as bs) (h' : Edits n bs cs) : Edits (m + n) as cs := by
  induction h with
  | none as => rwa [Nat.zero_add]
  | step first _ ih =>
    rw [Nat.add_right_comm]
    exact .step first (ih h')

theorem symm (h : Edits n as bs) : Edits n bs as := by
  induction h with
  | none as => exact .none as
  | step first _ ih => exact ih.trans (.step first.symm (.none _))

theorem cons (c : Char) (h : Edits n as bs) : Edits n (c :: as) (c :: bs) := by
  induction h with
  | none as => exact .none (c :: as)
  | step first _ ih => exact .step (first.cons c) ih

theorem reverse (h : Edits n as bs) : Edits n as.reverse bs.reverse := by
  induction h with
  | none as => exact .none as.reverse
  | step first _ ih => exact .step first.reverse ih

/-- Without an edit the text stays the same. -/
theorem eq_of_zero (h : Edits 0 as bs) : as = bs := by
  cases h
  rfl

/-- All characters are inserted. -/
theorem of_nil (bs : List Char) : Edits bs.length [] bs := by
  induction bs with
  | nil => exact .none []
  | cons b bs ih => exact .step (.insert [] [] b) (ih.cons b)

theorem min (h : Edits m as bs) (h' : Edits n as bs) : Edits (min m n) as bs := by
  rcases Nat.le_total m n with le | le
  · rwa [Nat.min_eq_left le]
  · rwa [Nat.min_eq_right le]

end Edits

/-- The recursion counts edits that there are. -/
theorem edits_leastEdits (as bs : List Char) : Edits (leastEdits as bs) as bs := by
  fun_induction leastEdits as bs with
  | case1 bs => exact .of_nil bs
  | case2 as => exact (Edits.of_nil as).symm
  | case3 a as b bs replaced ih ih₁ ih₂ =>
    have replacing : Edits replaced (a :: as) (b :: bs) := by
      show Edits (if a = b then _ else _) (a :: as) (b :: bs)
      split
      · rename_i same
        exact same ▸ ih.cons a
      · exact .step (.replace [] as a b) (ih.cons b)
    have deleting := Edits.step (.delete [] as a) ih₁
    have inserting := Edits.step (.insert [] (a :: as) b) (ih₂.cons b)
    exact (replacing.min deleting).min inserting

/-! ## One edit more or less

An edit of the first text changes the recursion by at most one. Behind a common character
this goes on to hold, so that only edits of the first character are looked at. -/

theorem leastEdits_self (as : List Char) : leastEdits as as = 0 := by
  induction as with
  | nil => rw [leastEdits_nil_left, List.length_nil]
  | cons a as ih => rw [leastEdits, if_pos rfl, ih, Nat.zero_min, Nat.zero_min]

/-- A character in front costs at most one edit, its deletion. -/
theorem leastEdits_cons_left_le (c : Char) (as bs : List Char) :
    leastEdits (c :: as) bs ≤ leastEdits as bs + 1 := by
  cases bs with
  | nil => simp [leastEdits_nil_right]
  | cons b bs =>
    rw [leastEdits]
    omega

/-- A character in front of the other text costs at most one edit, its insertion. -/
theorem leastEdits_cons_right_le (as bs : List Char) (c : Char) :
    leastEdits as (c :: bs) ≤ leastEdits as bs + 1 := by
  cases as with
  | nil => rw [leastEdits_nil_left, leastEdits_nil_left, List.length_cons]
  | cons a as =>
    rw [leastEdits]
    omega

theorem leastEdits_le_cons_left (c : Char) (as bs : List Char) :
    leastEdits as bs ≤ leastEdits (c :: as) bs + 1 := by
  induction bs with
  | nil => simp only [leastEdits_nil_right, List.length_cons]; omega
  | cons b bs ih =>
    have longer := leastEdits_cons_right_le as bs b
    rw [leastEdits]
    split <;> omega

/-- Another first character costs at most one edit, its replacement. -/
theorem leastEdits_replace_le (c d : Char) (as bs : List Char) :
    leastEdits (c :: as) bs ≤ leastEdits (d :: as) bs + 1 := by
  induction bs with
  | nil => simp [leastEdits_nil_right]
  | cons b bs ih =>
    rw [leastEdits, leastEdits]
    split <;> split <;> omega

theorem leastEdits_cons_le (c : Char) (near : ∀ bs, leastEdits as bs ≤ leastEdits as' bs + 1)
    (bs : List Char) : leastEdits (c :: as) bs ≤ leastEdits (c :: as') bs + 1 := by
  induction bs with
  | nil =>
    have lengths := near []
    simp only [leastEdits_nil_right, List.length_cons] at lengths ⊢
    omega
  | cons b bs ih =>
    have shorter := near bs
    have same := near (b :: bs)
    rw [leastEdits, leastEdits]
    split <;> omega

/-- Behind the same beginning two texts still need numbers of edits that are at most one apart. -/
theorem leastEdits_append_le (before : List Char)
    (near : ∀ bs, leastEdits as bs ≤ leastEdits as' bs + 1) (bs : List Char) :
    leastEdits (before ++ as) bs ≤ leastEdits (before ++ as') bs + 1 := by
  induction before generalizing bs with
  | nil => exact near bs
  | cons c before ih => exact leastEdits_cons_le c ih bs

/-- One edit changes the number of edits that are needed by at most one. -/
theorem leastEdits_le_of_edit (h : Edit as as') (bs : List Char) :
    leastEdits as bs ≤ leastEdits as' bs + 1 := by
  cases h with
  | insert before after c => exact leastEdits_append_le before (leastEdits_le_cons_left c after) bs
  | delete before after c => exact leastEdits_append_le before (leastEdits_cons_left_le c after) bs
  | replace before after c d =>
    exact leastEdits_append_le before (leastEdits_replace_le c d after) bs

/-- No series of edits is shorter than the computed number. -/
theorem leastEdits_le (h : Edits n as bs) : leastEdits as bs ≤ n := by
  induction h with
  | none as => exact (leastEdits_self as).le
  | step first _ ih => exact (leastEdits_le_of_edit first _).trans (Nat.succ_le_succ ih)

/-- The computed number is the least number of edits. -/
theorem leastEdits_isLeast (as bs : List Char) :
    IsLeast {n : Nat | Edits n as bs} (leastEdits as bs) :=
  ⟨edits_leastEdits as bs, fun _ h => leastEdits_le h⟩

/-! ## Rows

The second text is read up to some character and the first one too, and the recursion is
applied to what has been read, the last character first. -/

/-- The values of the recursion behind what has been read of the second text: one for each
character that follows. -/
def distancesBehind (as : List Char) : List Char → List Char → List Nat
  | _, [] => []
  | read, b :: bs => leastEdits as (b :: read) :: distancesBehind as (b :: read) bs

/-- The cells of the next row hold the values for one more character of the first text. -/
theorem distanceCells_eq (a : Char) (as read bs : List Char) :
    distanceCells a (leastEdits as read) (leastEdits (a :: as) read) bs
        (distancesBehind as read bs) = distancesBehind (a :: as) read bs := by
  induction bs generalizing read with
  | nil => rfl
  | cons b bs ih =>
    rw [distancesBehind, distancesBehind, distanceCells, ← ih (b :: read), leastEdits]

/-- In front of the first character of the one text the distances are the lengths of the
beginnings of the other. -/
theorem distancesBehind_nil (read bs : List Char) :
    distancesBehind [] read bs = List.range' (read.length + 1) bs.length := by
  induction bs generalizing read with
  | nil => rfl
  | cons b bs ih =>
    rw [distancesBehind, ih, leastEdits_nil_left, List.length_cons, List.length_cons,
      List.range'_succ]

/-- The last distance of a row is that of the whole texts. -/
theorem getLast?_distancesBehind (as read bs : List Char) :
    (leastEdits as read :: distancesBehind as read bs).getLast? =
      some (leastEdits as (bs.reverse ++ read)) := by
  induction bs generalizing read with
  | nil => rfl
  | cons b bs ih =>
    rw [distancesBehind, List.getLast?_cons_cons, ih, List.reverse_cons, List.append_assoc]
    rfl

/-- The row after some characters of the first text. -/
theorem foldl_distanceRow (as bs : List Char) :
    as.foldl (distanceRow bs) (List.range (bs.length + 1)) =
      leastEdits as.reverse [] :: distancesBehind as.reverse [] bs := by
  induction as using List.reverseRecOn with
  | nil =>
    rw [List.foldl_nil, List.reverse_nil, leastEdits_nil_left, distancesBehind_nil,
      List.range_eq_range', List.range'_succ]
    rfl
  | append_singleton as a ih =>
    rw [List.foldl_append, ih, List.reverse_concat]
    have first : leastEdits as.reverse [] + 1 = leastEdits (a :: as.reverse) [] := by
      rw [leastEdits_nil_right, leastEdits_nil_right, List.length_cons]
    show (_ :: distanceCells a _ _ bs _) = _
    rw [first, distanceCells_eq]

/-- The table that is computed row by row gives the least number of edits. -/
theorem charDistance_eq (as bs : List Char) :
    charDistance as bs = leastEdits as.reverse bs.reverse := by
  rw [charDistance, foldl_distanceRow, getLast?_distancesBehind, List.append_nil, Option.getD_some]

/-- The distance is the least number of edits that lead from one text to the other. -/
theorem charDistance_isLeast (as bs : List Char) :
    IsLeast {n : Nat | Edits n as bs} (charDistance as bs) := by
  rw [charDistance_eq]
  have backwards : {n : Nat | Edits n as bs} = {n : Nat | Edits n as.reverse bs.reverse} := by
    ext n
    refine ⟨Edits.reverse, fun h => ?_⟩
    simpa using h.reverse
  rw [backwards]
  exact leastEdits_isLeast _ _

end TexMarkup
