import Mathlib.Data.List.Nodup
import RowFilter.Proofs.Options
import RowFilter.Proofs.Outcome
import RowFilter.Table.Basic

/-!
Tables that are built: columns are defined first, then rows are added and cells are set. No two of
their columns go by the same name, and every row has as many cells as there are columns.
-/

namespace RowFilter.Table

/-- What columns are looked up under. -/
def keys (columns : List Column) : List (List Char) := columns.map fun c => Text.key c.name

/-! ## Columns -/

/-- A column that is defined again keeps its place; a new one comes last. -/
theorem keys_defineColumn (columns : List Column) (c : Column) :
    keys (defineColumn columns c) =
      if Text.key c.name ∈ keys columns then keys columns else keys columns ++ [Text.key c.name] := by
  induction columns with
  | nil => rfl
  | cons d rest ih =>
    rw [defineColumn]
    by_cases hname : Text.sameName d.name c.name = true
    · have hkey : Text.key d.name = Text.key c.name := Text.sameName_iff.mp hname
      rw [if_pos hname, if_pos]
      · rfl
      · rw [← hkey]
        exact List.mem_cons_self
    · have hkey : Text.key c.name ≠ Text.key d.name :=
        fun h => hname (Text.sameName_iff.mpr h.symm)
      have hmem : Text.key c.name ∈ keys (d :: rest) ↔ Text.key c.name ∈ keys rest := by
        show Text.key c.name ∈ Text.key d.name :: keys rest ↔ _
        rw [List.mem_cons, or_iff_right hkey]
      rw [if_neg hname]
      show Text.key d.name :: keys (defineColumn rest c) = _
      rw [ih]
      by_cases hrest : Text.key c.name ∈ keys rest
      · rw [if_pos hrest, if_pos (hmem.mpr hrest)]
        rfl
      · rw [if_neg hrest, if_neg (fun h => hrest (hmem.mp h))]
        rfl

theorem nodup_keys_defineColumn {columns : List Column} (h : (keys columns).Nodup) (c : Column) :
    (keys (defineColumn columns c)).Nodup := by
  rw [keys_defineColumn]
  split
  · exact h
  · next hmem =>
    rw [← List.concat_eq_append]
    exact h.concat hmem

theorem nodup_keys_foldl {columns : List Column} (h : (keys columns).Nodup) (more : List Column) :
    (keys (more.foldl defineColumn columns)).Nodup := by
  induction more generalizing columns with
  | nil => exact h
  | cons c more ih => exact ih (nodup_keys_defineColumn h c)

/-! ## Built tables -/

inductive Built : Table → Prop where
  | build (name : String) (columns : List Column) : Built (build name columns)
  | addRow {t t' : Table} {values : List Value} (h : Built t) (ht : t.addRow values = .ok t') :
      Built t'
  | setCell {t t' : Table} {row : Nat} {column : String} {v : Value} (h : Built t)
      (ht : t.setCell row column v = .ok t') : Built t'

/-- Columns that can be told apart by their names, and rows with a cell for each of them. -/
structure WellFormed (t : Table) : Prop where
  nodup : (keys t.columns).Nodup
  width : ∀ cells ∈ t.rows, cells.length = t.columns.length

theorem wellFormed_build (name : String) (columns : List Column) :
    (build name columns).WellFormed := by
  have hnone : (keys []).Nodup := List.nodup_nil
  exact ⟨nodup_keys_foldl hnone columns, nofun⟩

theorem WellFormed.addRow {t t' : Table} {values : List Value} (h : t.WellFormed)
    (ht : t.addRow values = .ok t') : t'.WellFormed := by
  unfold Table.addRow at ht
  split at ht
  · cases ht
  · next hcount =>
    obtain ⟨-, -, ht⟩ := bind_eq_ok_iff.mp ht
    cases ht
    refine ⟨h.nodup, List.forall_mem_append.mpr ⟨h.width, List.forall_mem_singleton.mpr ?_⟩⟩
    have hpad : (padTo t.columns.length values).length = t.columns.length := by
      rw [padTo, List.length_append, List.length_replicate]
      omega
    exact hpad

theorem WellFormed.setCell {t t' : Table} {row : Nat} {column : String} {v : Value}
    (h : t.WellFormed) (ht : t.setCell row column v = .ok t') : t'.WellFormed := by
  unfold Table.setCell at ht
  split at ht
  · cases ht
  · obtain ⟨-, -, ht⟩ := bind_eq_ok_iff.mp ht
    split at ht
    · cases ht
    · next cells hcells =>
      cases ht
      refine ⟨h.nodup, fun other hother => ?_⟩
      rcases List.mem_or_eq_of_mem_set hother with hother | rfl
      · exact h.width other hother
      · rw [List.length_set]
        exact h.width cells (List.mem_of_getElem? hcells)

theorem Built.wellFormed {t : Table} (h : t.Built) : t.WellFormed := by
  induction h with
  | build name columns => exact wellFormed_build name columns
  | addRow _ ht ih => exact ih.addRow ht
  | setCell _ ht ih => exact ih.setCell ht

/-! ## Looking up columns -/

/-- What is found is at its place and goes by the name. -/
theorem findColumn?_eq_some {name : String} {start index : Nat} {columns : List Column}
    {c : Column} (h : findColumn? name start columns = some (index, c)) :
    ∃ k, index = start + k ∧ columns[k]? = some c ∧ Text.sameName c.name name = true := by
  induction columns generalizing start with
  | nil => cases h
  | cons d rest ih =>
    rw [findColumn?] at h
    split at h
    · next hname =>
      cases h
      exact ⟨0, rfl, rfl, hname⟩
    · obtain ⟨k, rfl, hk, hname⟩ := ih h
      exact ⟨k + 1, by omega, hk, hname⟩

theorem column?_eq_some {t : Table} {name : String} {index : Nat} {c : Column}
    (h : t.column? name = some (index, c)) :
    t.columns[index]? = some c ∧ Text.sameName c.name name = true := by
  obtain ⟨k, rfl, hk, hname⟩ := findColumn?_eq_some h
  rw [Nat.zero_add]
  exact ⟨hk, hname⟩

/-- A column that goes by a name is found under it, if columns can be told apart. -/
theorem WellFormed.column?_of_getElem? {t : Table} (h : t.WellFormed) {name : String}
    {index : Nat} {c : Column} (hc : t.columns[index]? = some c)
    (hname : Text.sameName c.name name = true) : t.column? name = some (index, c) := by
  have hfind (start : Nat) {columns : List Column} (hnodup : (keys columns).Nodup) {k : Nat}
      (hk : columns[k]? = some c) : findColumn? name start columns = some (start + k, c) := by
    induction columns generalizing start k with
    | nil => cases hk
    | cons d rest ih =>
      obtain ⟨hd, hrest⟩ := List.nodup_cons.mp hnodup
      rw [findColumn?]
      cases k with
      | zero =>
        obtain rfl : d = c := Option.some.inj hk
        rw [if_pos hname]
        rfl
      | succ k =>
        have hmem : c ∈ rest := List.mem_of_getElem? hk
        have hother : ¬ Text.sameName d.name name = true := by
          intro hdname
          -- the name is that of `c`, which comes later
          have hkey : Text.key d.name = Text.key c.name :=
            (Text.sameName_iff.mp hdname).trans (Text.sameName_iff.mp hname).symm
          have hagain : Text.key c.name ∈ keys rest := List.mem_map_of_mem hmem
          rw [← hkey] at hagain
          exact hd hagain
        rw [if_neg hother, ih (start + 1) hrest hk]
        exact congrArg some (Prod.ext (by omega) rfl)
  have hcolumn := hfind 0 h.nodup hc
  rw [Nat.zero_add] at hcolumn
  exact hcolumn

end RowFilter.Table
