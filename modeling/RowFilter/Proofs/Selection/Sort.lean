import Mathlib.Data.List.Forall2
import RowFilter.Selection.Sort

/-!
What the stable sort yields under an order in which elements may tie: no element stands behind one
that it precedes, and elements that tie stand as they stood before.
-/

namespace RowFilter

variable {α : Type} {R Before : α → α → Prop} {less : α → α → Bool}

/-- The second of two elements does not precede the first, and if the first does not precede it
either, the first was there before. -/
def InOrder (R Before : α → α → Prop) (a b : α) : Prop :=
  ¬ R b a ∧ (R a b ∨ Before a b)

section

variable (hasymm : ∀ a b, R a b → ¬ R b a) (hcotrans : ∀ a b c, R a c → R a b ∨ R b c)
include hasymm hcotrans

/-- Inserting an element that comes after all others keeps a reversed list in order. What it passes
is what it precedes; it precedes nothing behind the first element that it does not precede. -/
theorem insertReversed_inOrder {x : α} {ys : List α} (hless : ∀ y ∈ ys, less x y = true ↔ R x y)
    (hbefore : ∀ y ∈ ys, Before y x) (hys : ys.Pairwise fun b a => InOrder R Before a b) :
    (insertReversed less x ys).Pairwise fun b a => InOrder R Before a b := by
  induction ys with
  | nil => exact List.pairwise_singleton _ _
  | cons y ys ih =>
    obtain ⟨hlessy, hlessys⟩ := List.forall_mem_cons.mp hless
    obtain ⟨hbeforey, hbeforeys⟩ := List.forall_mem_cons.mp hbefore
    obtain ⟨hy, hys'⟩ := List.pairwise_cons.mp hys
    rw [insertReversed]
    split
    -- `x` goes on: all that comes to stand before `y` precedes it or was there before.
    · next h =>
      have hxy : R x y := hlessy.mp h
      refine List.pairwise_cons.mpr ⟨fun z hz => ?_, ih hlessys hbeforeys hys'⟩
      rcases List.mem_cons.mp ((insertReversed_perm less x ys).mem_iff.mp hz) with rfl | hz
      · exact ⟨hasymm z y hxy, .inl hxy⟩
      · exact hy z hz
    -- `x` stays. If it preceded some `z` farther back, then by cotransitivity it would precede `y`,
    -- or `y` would precede `z`, which the list rules out.
    · next h =>
      have hxy : ¬ R x y := fun hxy => h (hlessy.mpr hxy)
      refine List.pairwise_cons.mpr ⟨fun z hz => ⟨?_, .inr (hbefore z hz)⟩, hys⟩
      rcases List.mem_cons.mp hz with rfl | hz
      · exact hxy
      · intro hxz
        rcases hcotrans x y z hxz with hxy' | hyz
        · exact hxy hxy'
        · exact (hy z hz).1 hyz

theorem foldl_insertReversed_inOrder {xs sorted : List α}
    (hless : ∀ a ∈ xs ++ sorted, ∀ b ∈ xs ++ sorted, less a b = true ↔ R a b)
    (hxs : xs.Pairwise Before) (hbefore : ∀ y ∈ sorted, ∀ x ∈ xs, Before y x)
    (hsorted : sorted.Pairwise fun b a => InOrder R Before a b) :
    (xs.foldl (fun sorted x => insertReversed less x sorted) sorted).Pairwise
      fun b a => InOrder R Before a b := by
  induction xs generalizing sorted with
  | nil => exact hsorted
  | cons x xs ih =>
    obtain ⟨hx, hxs'⟩ := List.pairwise_cons.mp hxs
    have hperm := insertReversed_perm less x sorted
    have hmem {a : α} (ha : a ∈ xs ++ insertReversed less x sorted) : a ∈ x :: xs ++ sorted := by
      rcases List.mem_append.mp ha with ha | ha
      · exact List.mem_append_left _ (List.mem_cons_of_mem x ha)
      · rcases List.mem_cons.mp (hperm.mem_iff.mp ha) with rfl | ha
        · exact List.mem_append_left _ List.mem_cons_self
        · exact List.mem_append_right _ ha
    -- The invariant of the loop: what has been inserted was before all that is left.
    apply ih
    · exact fun a ha b hb => hless a (hmem ha) b (hmem hb)
    · exact hxs'
    · intro y hy z hz
      rcases List.mem_cons.mp (hperm.mem_iff.mp hy) with rfl | hy
      · exact hx z hz
      · exact hbefore y hy z (List.mem_cons_of_mem x hz)
    · apply insertReversed_inOrder hasymm hcotrans
      · exact fun y hy => hless x (List.mem_append_left _ List.mem_cons_self) y
          (List.mem_append_right _ hy)
      · exact fun y hy => hbefore y hy x List.mem_cons_self
      · exact hsorted

/-- The sorted list is in order. -/
theorem stableSort_inOrder {xs : List α} (hless : ∀ a ∈ xs, ∀ b ∈ xs, less a b = true ↔ R a b)
    (hxs : xs.Pairwise Before) : (stableSort less xs).Pairwise (InOrder R Before) := by
  rw [stableSort, List.pairwise_reverse]
  apply foldl_insertReversed_inOrder hasymm hcotrans
  · rw [List.append_nil]
    exact hless
  · exact hxs
  · exact nofun
  · exact .nil

end

/-! ## Related elements -/

section

variable {β : Type} {S : α → β → Prop} {less' : β → β → Bool}
  (hless : ∀ a b a' b', S a a' → S b b' → less a b = less' a' b')
include hless

theorem forall₂_insertReversed {x : α} {x' : β} {ys : List α} {ys' : List β} (hx : S x x')
    (hys : List.Forall₂ S ys ys') :
    List.Forall₂ S (insertReversed less x ys) (insertReversed less' x' ys') := by
  induction hys with
  | nil => exact .cons hx .nil
  | cons hy hys ih =>
    rw [insertReversed, insertReversed, hless _ _ _ _ hx hy]
    split
    · exact .cons hy ih
    · exact .cons hx (.cons hy hys)

/-- Elements that are related one by one, and that the orders do not tell apart, are related one by
one when they are sorted. -/
theorem forall₂_stableSort {xs : List α} {xs' : List β} (h : List.Forall₂ S xs xs') :
    List.Forall₂ S (stableSort less xs) (stableSort less' xs') := by
  have hfold {sorted : List α} {sorted' : List β} (hsorted : List.Forall₂ S sorted sorted') :
      List.Forall₂ S (xs.foldl (fun sorted x => insertReversed less x sorted) sorted)
        (xs'.foldl (fun sorted x => insertReversed less' x sorted) sorted') := by
    induction h generalizing sorted sorted' with
    | nil => exact hsorted
    | cons hx _ ih => exact ih (forall₂_insertReversed hless hx hsorted)
  exact List.rel_reverse (hfold .nil)

end

end RowFilter
