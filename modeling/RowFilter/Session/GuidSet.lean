import RowFilter.Guid

/-!
Sets of signal IDs: every ID once, in ascending order.
-/

namespace RowFilter

abbrev GuidSet := List Guid

namespace GuidSet

def insert (g : Guid) : GuidSet → GuidSet
  | [] => [g]
  | h :: rest =>
    if g = h then h :: rest
    else if g.number < h.number then g :: h :: rest
    else h :: insert g rest

theorem mem_insert {g h : Guid} {s : GuidSet} : h ∈ insert g s ↔ h = g ∨ h ∈ s := by
  induction s with
  | nil => simp [insert]
  | cons k rest ih =>
    simp only [insert]
    split
    · rename_i e
      simp [e]
    · split
      · simp
      · simp only [List.mem_cons, ih]
        exact or_left_comm

/-- The IDs are in ascending order, so none is there twice. -/
def Ascending (s : GuidSet) : Prop :=
  s.Pairwise fun g h => g.number < h.number

theorem ascending_insert {g : Guid} {s : GuidSet} (h : Ascending s) :
    Ascending (insert g s) := by
  induction s with
  | nil => exact List.pairwise_singleton _ _
  | cons k rest ih =>
    obtain ⟨first, others⟩ := List.pairwise_cons.1 h
    simp only [insert]
    split
    · exact h
    · rename_i differs
      split
      · rename_i less
        refine List.pairwise_cons.2 ⟨fun m hm => ?_, h⟩
        rcases List.mem_cons.1 hm with rfl | hm
        · exact less
        · exact BitVec.lt_trans less (first m hm)
      · rename_i notLess
        refine List.pairwise_cons.2 ⟨fun m hm => ?_, ih others⟩
        rcases mem_insert.1 hm with rfl | hm
        · have : k.number ≠ m.number := fun e => differs (by cases k; cases m; simp_all)
          have : k.number.toNat ≠ m.number.toNat := fun e => this (BitVec.eq_of_toNat_eq e)
          simp only [BitVec.lt_def] at notLess ⊢
          omega
        · exact first m hm

end GuidSet

end RowFilter
