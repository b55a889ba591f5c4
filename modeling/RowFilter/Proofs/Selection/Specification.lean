import RowFilter.Proofs.Selection.RowOrder
import RowFilter.Proofs.Selection.Scan
import RowFilter.Proofs.Selection.Sort

/-!
What a selection returns, whatever its tree: of the rows on which the tree is true, brought into the
order that is asked for, as many as are wanted. The order is determined by the terms and by the
positions of the rows.
-/

namespace RowFilter

/-! ## Tables and their rows -/

/-- Every cell belongs to a column and is undefined or of the type of that column. -/
def Table.WellTyped (t : Table) : Prop :=
  ∀ cells ∈ t.rows, ∀ (column : ℕ) (v : Value), cells[column]? = some v →
    ∃ c, t.columns[column]? = some c ∧ admits c v = true

namespace Table

variable {t : Table}

theorem cells_mem_rows {row : Row} (h : row ∈ t.rowList) : row.cells ∈ t.rows := by
  obtain ⟨⟨cells, index⟩, hmem, rfl⟩ := List.mem_map.mp h
  exact List.fst_mem_of_mem_zipIdx hmem

theorem isOf_of_admits {c : Column} {v : Value} (h : admits c v = true) : v.IsOf c.type := by
  rcases Bool.or_eq_true_iff.mp h with hundefined | htype
  · cases v with
    | undefined => exact .inl rfl
    | _ => cases hundefined
  · exact .inr (of_decide_eq_true htype)

/-- The cells of a column, whether it exists or not, are undefined or of one type. -/
theorem WellTyped.exists_isOf (h : t.WellTyped) (column : ℕ) :
    ∃ type, ∀ row ∈ t.rowList, (row.cell column).IsOf type := by
  refine ⟨(t.columns[column]?.map Column.type).getD .undefined, fun row hrow => ?_⟩
  rw [Row.cell, List.getD_eq_getElem?_getD]
  -- Where a row has no such cell, it is undefined.
  cases hcell : row.cells[column]? with
  | none => exact .inl rfl
  | some v =>
    obtain ⟨c, hc, hadmits⟩ := h row.cells (cells_mem_rows hrow) column v hcell
    rw [hc]
    exact isOf_of_admits hadmits

theorem WellTyped.sameTypes (h : t.WellTyped) {a b : Row} (ha : a ∈ t.rowList)
    (hb : b ∈ t.rowList) : a.SameTypes b := by
  intro column
  obtain ⟨type, htype⟩ := h.exists_isOf column
  exact ⟨type, htype a ha, htype b hb⟩

end Table

/-! ## Sorted rows -/

/-- The rows in the order of the terms; rows that tie under all of them are in storage order. -/
structure IsSorting (terms : List OrderTerm) (rows sorted : List Row) : Prop where
  perm : sorted.Perm rows
  ordered : sorted.Pairwise fun a b => ¬ RowPrecedes terms b a
  stable : sorted.Pairwise fun a b => (∀ term ∈ terms, term.Ties a b) → a.index < b.index

/-- Rows can be sorted in one way only. -/
theorem IsSorting.unique {terms : List OrderTerm} {rows sorted sorted' : List Row}
    (h : IsSorting terms rows sorted) (h' : IsSorting terms rows sorted') : sorted = sorted' := by
  refine List.Perm.eq_of_pairwise ?_ (h.ordered.and h.stable) (h'.ordered.and h'.stable)
    (h.perm.trans h'.perm.symm)
  intro a b _ _ hab hba
  -- Two rows in either order tie under all terms, and then their indices would have to be less than
  -- each other.
  have hties := RowPrecedes.ties_of_not hba.1 hab.1
  have hlt := hab.2 hties
  have hgt := hba.2 fun term hterm => (hties term hterm).symm
  omega

/-- Without terms the rows stay as they are. -/
theorem isSorting_nil {rows : List Row} (h : rows.Pairwise fun a b => a.index < b.index) :
    IsSorting [] rows rows := by
  refine ⟨.refl _, List.pairwise_of_forall ?_, ?_⟩
  · intro a b hprecedes
    cases hprecedes
  · refine h.imp ?_
    intro a b hlt _
    exact hlt

/-- The stable sort brings rows of a well-typed table into the order of the terms. -/
theorem isSorting_stableSort {terms : List OrderTerm} {rows : List Row}
    (htypes : ∀ a ∈ rows, ∀ b ∈ rows, a.SameTypes b)
    (hrows : rows.Pairwise fun a b => a.index < b.index) :
    IsSorting terms rows (stableSort (fun a b => compareRows terms a b == .lt) rows) := by
  have hless : ∀ a ∈ rows, ∀ b ∈ rows,
      (compareRows terms a b == .lt) = true ↔ RowPrecedes terms a b := by
    intro a ha b hb
    rw [beq_iff_eq]
    exact compareRows_eq_lt_iff (htypes a ha b hb)
  have hsorted := stableSort_inOrder (R := RowPrecedes terms) (fun _ _ h => h.asymm)
    (fun _ b _ h => h.cotrans b) hless hrows
  refine ⟨stableSort_perm _ rows, hsorted.imp fun h => h.1, hsorted.imp fun h hties => ?_⟩
  -- Rows that tie do not precede one another, so they stand as before.
  rcases h.2 with hprecedes | hbefore
  · exact absurd hties hprecedes.not_ties
  · exact hbefore

namespace ExpressionTree

variable (t : ExpressionTree) (clock : Clock) (table : Table)

/-- The rows on which the tree is true, in storage order. -/
def matching : List Row := table.rowList.filter (t.selects clock)

theorem pairwise_matching :
    (t.matching clock table).Pairwise fun a b => a.index < b.index :=
  table.pairwise_rowList.filter _

/-- The matching rows in the order that is asked for. -/
def sorted : List Row :=
  if t.orderBy.isEmpty then t.matching clock table
  else stableSort (fun a b => compareRows t.orderBy a b == .lt) (t.matching clock table)

theorem isSorting_sorted (htyped : table.WellTyped) :
    IsSorting t.orderBy (t.matching clock table) (t.sorted clock table) := by
  rw [sorted]
  split
  · next h =>
    rw [List.isEmpty_iff.mp h]
    exact isSorting_nil (t.pairwise_matching clock table)
  · refine isSorting_stableSort (fun a ha b hb => ?_) (t.pairwise_matching clock table)
    exact htyped.sameTypes (List.mem_filter.mp ha).1 (List.mem_filter.mp hb).1

/-- A scan that ends early, and none at all where no row is wanted, yields the rows that the whole
scan would. -/
theorem rowsOf_fst : (t.rowsOf clock table).1 = upTo t.limit? (t.sorted clock table) := by
  rw [rowsOf, sorted]
  split
  · next hnone =>
    rw [hnone]
    rfl
  · split
    · exact t.scan_fst clock table.name t.limit? table.rowList
    · dsimp only
      rw [scan_fst]
      rfl

theorem upTo_limit (rows : List Row) :
    upTo t.limit? rows = if t.topLimit < 0 then rows else rows.take t.topLimit.toNat := by
  rw [limit?]
  split
  · rfl
  · rfl

/-- A selection never fails. It returns the rows on which the tree is true, sorted in the only way
there is, and no more of them than are wanted. -/
theorem select_eq_ok_sorting (hname : Text.sameName table.name t.table = true)
    (htyped : table.WellTyped) :
    ∃ sorted,
      (∀ rows, IsSorting t.orderBy
          (table.rowList.filter fun row => t.evaluate clock row = .ok (.boolean true)) rows ↔
        rows = sorted) ∧
      (t.select clock table).1 =
        .ok (if t.topLimit < 0 then sorted else sorted.take t.topLimit.toNat) := by
  have hsorting := t.isSorting_sorted clock table htyped
  refine ⟨t.sorted clock table, fun rows => ⟨fun h => h.unique hsorting, ?_⟩, ?_⟩
  · rintro rfl
    exact hsorting
  · rw [select, if_pos hname, ← upTo_limit]
    exact congrArg Except.ok (t.rowsOf_fst clock table)

/-- Three readings by their units: the second has none, and the others differ in case alone. -/
def readings : Table :=
  ⟨"Readings", [⟨"Unit", .string⟩], [[.string "kV"], [.undefined], [.string "KV"]]⟩

/-- The first two rows in descending order of the units. -/
def lastUnits : ExpressionTree :=
  ⟨"READINGS", 2, [⟨⟨"Unit", 0⟩, false, false⟩], some (.value (.boolean true))⟩

/-- The table of readings and the selection of the last units meet what the general statement asks
for; names that differ in case are the same. -/
theorem select_sorts_readings :
    Text.sameName readings.name lastUnits.table = true ∧ readings.WellTyped ∧
      ∃ sorted,
        (∀ rows, IsSorting lastUnits.orderBy
            (readings.rowList.filter fun row =>
              lastUnits.evaluate .millennium row = .ok (.boolean true)) rows ↔
          rows = sorted) ∧
        (lastUnits.select .millennium readings).1 =
          .ok (if lastUnits.topLimit < 0 then sorted
            else sorted.take lastUnits.topLimit.toNat) := by
  have hname : Text.sameName readings.name lastUnits.table = true := by decide +kernel
  have htyped : readings.WellTyped := by
    intro cells hcells column v hv
    rcases column with _ | column
    · refine ⟨⟨"Unit", .string⟩, rfl, ?_⟩
      rcases List.mem_cons.mp hcells with rfl | hcells
      · cases hv
        rfl
      · rcases List.mem_cons.mp hcells with rfl | hcells
        · cases hv
          rfl
        · obtain rfl := List.mem_singleton.mp hcells
          cases hv
          rfl
    · have hnone : cells[column + 1]? = none := by
        rcases List.mem_cons.mp hcells with rfl | hcells
        · rfl
        · rcases List.mem_cons.mp hcells with rfl | hcells
          · rfl
          · obtain rfl := List.mem_singleton.mp hcells
            rfl
      rw [hnone] at hv
      cases hv
  exact ⟨hname, htyped, lastUnits.select_eq_ok_sorting .millennium readings hname htyped⟩

end ExpressionTree

end RowFilter
