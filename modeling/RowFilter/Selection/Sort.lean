/-!
Stable insertion sort. Every element is inserted behind those that it does not have to precede,
looking from the end of what is sorted so far.
-/

namespace RowFilter

variable {α : Type}

/-- Inserts an element into a list whose order is reversed. -/
def insertReversed (less : α → α → Bool) (x : α) : List α → List α
  | [] => [x]
  | y :: ys => if less x y then y :: insertReversed less x ys else x :: y :: ys

/-- The elements in order; those of which neither precedes the other keep their places. -/
def stableSort (less : α → α → Bool) (xs : List α) : List α :=
  (xs.foldl (fun sorted x => insertReversed less x sorted) []).reverse

theorem insertReversed_perm (less : α → α → Bool) (x : α) (ys : List α) :
    (insertReversed less x ys).Perm (x :: ys) := by
  induction ys with
  | nil => exact .refl _
  | cons y ys ih =>
    simp only [insertReversed]
    split
    · exact (ih.cons y).trans (.swap x y ys)
    · exact .refl _

theorem foldl_insertReversed_perm (less : α → α → Bool) (xs sorted : List α) :
    (xs.foldl (fun sorted x => insertReversed less x sorted) sorted).Perm (xs ++ sorted) := by
  induction xs generalizing sorted with
  | nil => exact .refl _
  | cons x xs ih =>
    exact (ih _).trans (((insertReversed_perm less x sorted).append_left xs).trans
      List.perm_middle)

theorem stableSort_perm (less : α → α → Bool) (xs : List α) : (stableSort less xs).Perm xs := by
  have h := foldl_insertReversed_perm less xs []
  rw [List.append_nil] at h
  exact (List.reverse_perm _).trans h

end RowFilter
