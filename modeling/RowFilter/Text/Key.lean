import RowFilter.Text.CaseMap

/-!
Names that match up to case. Names are compared through their keys, their lowercase texts.
-/

namespace RowFilter.Text

/-- What a name is looked up under. -/
def key (name : String) : List Char :=
  lower name.toList

/-- Two names that are the same up to case. -/
def sameName (a b : String) : Bool :=
  key a == key b

theorem sameName_iff {a b : String} : sameName a b = true ↔ key a = key b := by
  simp [sameName]

theorem sameName_refl (a : String) : sameName a a = true := by
  simp [sameName]

theorem sameName_comm (a b : String) : sameName a b = sameName b a :=
  BEq.comm

end RowFilter.Text
