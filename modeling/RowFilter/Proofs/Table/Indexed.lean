import Mathlib.Data.List.Induction
import RowFilter.Proofs.Table.Built
import RowFilter.Table.Indexed

/-!
Lists with a map from keys to positions beside them: tables with their columns, data sets with their
tables. What is done to a list is done to its map, so a lookup through the map finds what a search
of the list would find. Tables and data sets without their maps are `IndexedTable.plain` and
`IndexedDataSet.plain`; every change of one is a change of the other.
-/

namespace RowFilter

namespace Positions

/-- No key stands twice, and each is mapped to its place. -/
structure InStep (ids : Positions) (keys : List (List Char)) : Prop where
  nodup : keys.Nodup
  getElem?_eq_some_iff (key : List Char) (i : ℕ) : ids[key]? = some i ↔ keys[i]? = some key

namespace InStep

variable {ids : Positions} {keys : List (List Char)}

theorem empty : InStep ∅ [] where
  nodup := .nil
  getElem?_eq_some_iff := by simp

theorem getElem?_eq_none_iff (h : ids.InStep keys) {key : List Char} :
    ids[key]? = none ↔ key ∉ keys := by
  rw [List.mem_iff_getElem?, Option.eq_none_iff_forall_ne_some]
  simp only [ne_eq, h.getElem?_eq_some_iff, not_exists]

/-- A key that is new goes to the end. -/
theorem insert (h : ids.InStep keys) {key : List Char} (hnew : key ∉ keys) :
    InStep (ids.insert key keys.length) (keys ++ [key]) where
  nodup := by
    rw [← List.concat_eq_append]
    exact h.nodup.concat hnew
  getElem?_eq_some_iff other i := by
    have hold : ids[other]? = some i ↔ i < keys.length ∧ keys[i]? = some other := by
      rw [h.getElem?_eq_some_iff, iff_and_self]
      exact fun hi => (List.getElem?_eq_some_iff.mp hi).1
    rw [Std.HashMap.getElem?_insert]
    by_cases hother : key = other
    · subst hother
      have hplace : keys[i]? ≠ some key := fun hi => hnew (List.mem_of_getElem? hi)
      rw [if_pos (beq_self_eq_true key), List.getElem?_append]
      by_cases hi : i < keys.length
      · rw [if_pos hi]
        simp only [hplace, iff_false, Option.some.injEq]
        omega
      · rw [if_neg hi, List.getElem?_singleton]
        by_cases hlast : i = keys.length
        · simp [hlast]
        · simp only [Option.some.injEq]
          rw [if_neg (by omega)]
          simp [Ne.symm hlast]
    · rw [if_neg (by simpa using hother), hold, List.getElem?_append]
      by_cases hi : i < keys.length
      · simp [hi]
      · rw [if_neg hi, List.getElem?_singleton]
        split
        · simp [hi, hother]
        · simp [hi]

/-- What stands at the place of a key is what has the key. -/
theorem bind_eq_some_iff {α : Type} {items : List α} {f : α → List Char}
    (h : ids.InStep (items.map f)) {key : List Char} {a : α} :
    ids[key]?.bind (items[·]?) = some a ↔ a ∈ items ∧ f a = key := by
  rw [Option.bind_eq_some_iff, List.mem_iff_getElem?]
  simp only [h.getElem?_eq_some_iff, List.getElem?_map, Option.map_eq_some_iff]
  constructor
  · rintro ⟨i, ⟨b, hb, hkey⟩, ha⟩
    obtain rfl : b = a := Option.some.inj (hb.symm.trans ha)
    exact ⟨⟨i, ha⟩, hkey⟩
  · rintro ⟨⟨i, ha⟩, hkey⟩
    exact ⟨i, ⟨a, ha, hkey⟩, ha⟩

end InStep

end Positions

/-! ## Tables -/

namespace IndexedTable

/-- The table without what is kept beside its columns. -/
def plain (t : IndexedTable) : Table :=
  ⟨t.name, t.columns.map (·.toColumn), t.rows⟩

/-- The map and the positions stored with the columns tell where the columns are. -/
structure InStep (t : IndexedTable) : Prop where
  ids : t.ids.InStep (Table.keys t.plain.columns)
  index (i : ℕ) (c : IndexedColumn) : t.columns[i]? = some c → c.index = i

theorem plain_push (t : IndexedTable) (c : Column) :
    (t.push c).plain = { t.plain with columns := t.plain.columns ++ [c] } := by
  simp [plain, push]

theorem InStep.push {t : IndexedTable} (h : t.InStep) {c : Column}
    (hnew : Text.key c.name ∉ Table.keys t.plain.columns) : (t.push c).InStep where
  ids := by
    have hids := h.ids.insert hnew
    rw [plain_push]
    simpa [Table.keys, plain, IndexedTable.push] using hids
  index i d hd := by
    have hcolumns : (t.push c).columns = t.columns ++ [{ c with index := t.columns.length }] := rfl
    rw [hcolumns, List.getElem?_append] at hd
    split at hd
    · exact h.index i d hd
    · rw [List.getElem?_singleton] at hd
      split at hd
      · obtain rfl := Option.some.inj hd
        show t.columns.length = i
        omega
      · cases hd

/-- Columns with keys of their own are put behind those there are. -/
theorem push_all {t : IndexedTable} (h : t.InStep) (columns : List Column)
    (hnew : (Table.keys (t.plain.columns ++ columns)).Nodup) :
    (columns.foldl IndexedTable.push t).InStep ∧
      (columns.foldl IndexedTable.push t).plain =
        { t.plain with columns := t.plain.columns ++ columns } := by
  induction columns generalizing t with
  | nil => exact ⟨h, by simp⟩
  | cons c columns ih =>
    have hc : Text.key c.name ∉ Table.keys t.plain.columns := by
      intro hmem
      rw [Table.keys, List.map_append, List.nodup_append] at hnew
      exact hnew.2.2 _ hmem _ List.mem_cons_self rfl
    have hmore : (Table.keys ((t.push c).plain.columns ++ columns)).Nodup := by
      rw [plain_push]
      simpa using hnew
    rw [List.foldl_cons]
    rcases ih (h.push hc) hmore with ⟨hstep, hplain⟩
    refine ⟨hstep, ?_⟩
    rw [hplain, plain_push]
    simp

theorem build_spec (name : String) (columns : List Column) :
    (build name columns).InStep ∧ (build name columns).plain = Table.build name columns := by
  have hnone : InStep { name, columns := [], ids := ∅, rows := [] } := ⟨.empty, by simp⟩
  exact push_all hnone _ (Table.wellFormed_build name columns).nodup

theorem column?_eq_some_iff {t : IndexedTable} (h : t.InStep) {name : String} {c : IndexedColumn} :
    t.column? name = some c ↔ c ∈ t.columns ∧ Text.sameName c.name name = true := by
  have hids := h.ids
  rw [Table.keys, plain, List.map_map] at hids
  rw [column?, hids.bind_eq_some_iff, Text.sameName_iff]
  rfl

/-- The map finds what a search finds. -/
theorem column?_plain {t : IndexedTable} (h : t.InStep) (hplain : t.plain.WellFormed)
    (name : String) :
    t.plain.column? name = (t.column? name).map fun c => (c.index, c.toColumn) := by
  apply Option.ext
  rintro ⟨i, c⟩
  rw [Option.map_eq_some_iff]
  constructor
  · intro hc
    obtain ⟨hplace, hname⟩ := Table.column?_eq_some hc
    rw [plain, List.getElem?_map, Option.map_eq_some_iff] at hplace
    rcases hplace with ⟨d, hd, rfl⟩
    refine ⟨d, (column?_eq_some_iff h).mpr ⟨List.mem_of_getElem? hd, hname⟩, ?_⟩
    rw [h.index i d hd]
  · rintro ⟨d, hd, hc⟩
    obtain ⟨rfl, rfl⟩ := Prod.mk.inj hc
    obtain ⟨hmem, hname⟩ := (column?_eq_some_iff h).mp hd
    obtain ⟨i, hi⟩ := List.mem_iff_getElem?.mp hmem
    rw [h.index i d hi]
    apply hplain.column?_of_getElem? _ hname
    simp [plain, hi]

/-! ### Changes -/

theorem run_addRow (t : IndexedTable) (values : List Value) :
    (addRow values).run t =
      match t.plain.addRow values with
      | .ok w => (.ok t.rows.length, { t with rows := w.rows })
      | .error e => (.error e, t) := by
  rw [Table.addRow]
  simp only [plain, List.length_map]
  by_cases hlong : t.columns.length < values.length
  · simp [hlong, addRow, Action.run_bind]
  · cases hcheck : Table.checkCells (t.columns.map (·.toColumn)) values with
    | error e => simp [hlong, hcheck, addRow, Action.run_bind, Action.run_lift]
    | ok u => simp [hlong, hcheck, addRow, Action.run_bind, Action.run_lift, Except.map]

theorem run_setCell (t : IndexedTable) (row : ℕ) (column : String) (v : Value)
    (h : t.plain.column? column = (t.column? column).map fun c => (c.index, c.toColumn)) :
    (setCell row column v).run t =
      match t.plain.setCell row column v with
      | .ok w => (.ok (), { t with rows := w.rows })
      | .error e => (.error e, t) := by
  rw [Table.setCell, h]
  cases hcolumn : t.column? column with
  | none => simp [setCell, hcolumn, Action.run_bind, plain]
  | some c =>
    cases hcheck : Table.checkCell c.toColumn v with
    | error e => simp [hcolumn, hcheck, setCell, Action.run_bind, Action.run_lift]
    | ok u =>
      cases hcells : t.rows[row]? <;>
        simp [hcolumn, hcheck, hcells, setCell, Action.run_bind, Action.run_lift, plain]

/-- A change that fails leaves the table as it was. -/
theorem run_act_of_error {t : IndexedTable} {c : RowChange} {e : Error}
    (h : (c.act.run t).1 = .error e) : (c.act.run t).2 = t := by
  revert h
  cases c with
  | add values =>
    rw [RowChange.act, Action.run_map, run_addRow]
    cases t.plain.addRow values with
    | error e => exact fun _ => rfl
    | ok w => intro h; cases h
  | set row column v =>
    rw [RowChange.act, setCell]
    cases hcolumn : t.column? column with
    | none => simp [hcolumn, Action.run_bind]
    | some c =>
      cases hcheck : Table.checkCell c.toColumn v with
      | error e => simp [hcolumn, hcheck, Action.run_bind, Action.run_lift]
      | ok u =>
        cases hcells : t.rows[row]? <;>
          simp [hcolumn, hcheck, hcells, Action.run_bind, Action.run_lift]

theorem run_act {t : IndexedTable} (h : t.InStep) (hplain : t.plain.WellFormed) (c : RowChange) :
    c.act.run t =
      match c.change? t.plain with
      | .ok w => (.ok (), { t with rows := w.rows })
      | .error e => (.error e, t) := by
  cases c with
  | add values =>
    rw [RowChange.act, Action.run_map, run_addRow, RowChange.change?]
    cases t.plain.addRow values with
    | error e => rfl
    | ok w => rfl
  | set row column v => exact run_setCell t row column v (column?_plain h hplain column)

/-- A change concerns the rows alone. -/
theorem change?_frame {t w : Table} {c : RowChange} (h : c.change? t = .ok w) :
    w = { t with rows := w.rows } := by
  cases c with
  | add values =>
    rw [RowChange.change?, Table.addRow] at h
    split at h
    · cases h
    · obtain ⟨-, -, h⟩ := bind_eq_ok_iff.mp h
      cases h
      rfl
  | set row column v =>
    rw [RowChange.change?, Table.setCell] at h
    split at h
    · cases h
    · obtain ⟨-, -, h⟩ := bind_eq_ok_iff.mp h
      split at h
      · cases h
      · cases h
        rfl

theorem apply_name (c : RowChange) (t : Table) : (c.apply t).name = t.name := by
  rw [RowChange.apply]
  split
  · next hchange => rw [change?_frame hchange]
  · rfl

/-- What a change does to the indexed table, it does to the plain one. -/
theorem act_spec {t : IndexedTable} (h : t.InStep) (hplain : t.plain.WellFormed) (c : RowChange) :
    (c.act.run t).2.InStep ∧ (c.act.run t).2.plain = c.apply t.plain := by
  rw [run_act h hplain, RowChange.apply]
  cases hchange : c.change? t.plain with
  | error e => exact ⟨h, rfl⟩
  | ok w =>
    refine ⟨⟨h.ids, h.index⟩, ?_⟩
    show _ = w
    rw [change?_frame hchange]
    rfl

end IndexedTable

theorem Table.Built.apply {t : Table} (h : t.Built) (c : RowChange) : (c.apply t).Built := by
  rw [RowChange.apply]
  split
  · next w hchange =>
    cases c with
    | add values => exact h.addRow hchange
    | set row column v => exact h.setCell hchange
  · exact h

namespace TableHistory

variable (name : String) (columns : List Column) (changes : List RowChange) (c : RowChange)

@[simp] theorem indexed_append : indexed ⟨name, columns, changes ++ [c]⟩ =
    (c.act.run (indexed ⟨name, columns, changes⟩)).2 := by
  simp [indexed]

@[simp] theorem table_append : table ⟨name, columns, changes ++ [c]⟩ =
    c.apply (table ⟨name, columns, changes⟩) := by
  simp [table]

/-- The indexed table goes through the same as the plain one, which is one that is built. -/
theorem indexed_spec (h : TableHistory) :
    h.indexed.InStep ∧ h.indexed.plain = h.table ∧ h.table.Built := by
  obtain ⟨name, columns, changes⟩ := h
  induction changes using List.reverseRecOn with
  | nil =>
    obtain ⟨hstep, hplain⟩ := IndexedTable.build_spec name columns
    exact ⟨hstep, hplain, .build name columns⟩
  | append_singleton changes c ih =>
    obtain ⟨hstep, hplain, hbuilt⟩ := ih
    rw [indexed_append, table_append]
    obtain ⟨hstep', hplain'⟩ := IndexedTable.act_spec hstep (hplain ▸ hbuilt.wellFormed) c
    rw [hplain] at hplain'
    exact ⟨hstep', hplain', hbuilt.apply c⟩

theorem table_name (h : TableHistory) : h.table.name = h.name := by
  obtain ⟨name, columns, changes⟩ := h
  induction changes using List.reverseRecOn with
  | nil => rfl
  | append_singleton changes c ih => rw [table_append, IndexedTable.apply_name, ih]

theorem indexed_name (h : TableHistory) : h.indexed.name = h.name := by
  have hname : h.indexed.plain.name = h.table.name := congrArg Table.name h.indexed_spec.2.1
  exact hname.trans h.table_name

end TableHistory

end RowFilter
