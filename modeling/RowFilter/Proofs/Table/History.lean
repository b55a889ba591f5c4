import Mathlib.Data.List.Induction
import RowFilter.Proofs.Selection.Specification
import RowFilter.Proofs.Table.Indexed

/-!
What tables and data sets are after any history, whether or not its changes succeed. A table has
columns that can be told apart and rows that fit them. A data set has its tables in the order in
which their names first came in, and under a name the last table that came in under it, with the
changes made since.
-/

namespace RowFilter

/-! ## Tables -/

namespace Table

theorem admits_of_checkCell {c : Column} {v : Value} (h : checkCell c v = .ok ()) :
    admits c v = true := by
  rw [checkCell] at h
  split at h
  · assumption
  · cases h

theorem admits_of_checkCells {columns : List Column} {values : List Value}
    (h : checkCells columns values = .ok ()) {i : ℕ} {c : Column} {v : Value}
    (hc : columns[i]? = some c) (hv : values[i]? = some v) : admits c v = true := by
  fun_induction checkCells columns values generalizing i with
  | case1 d columns w values ih =>
    obtain ⟨u, hcheck, hmore⟩ := bind_eq_ok_iff.mp h
    cases i with
    | zero =>
      cases hc
      cases hv
      exact admits_of_checkCell hcheck
    | succ i => exact ih hmore hc hv
  | case2 columns values hnone =>
    cases columns with
    | nil => cases hc
    | cons d columns =>
      cases values with
      | nil => cases hv
      | cons w values => exact absurd rfl (hnone d columns w values rfl)

/-- Every cell of a built table is undefined or of the type of its column. -/
theorem Built.wellTyped {t : Table} (h : t.Built) : t.WellTyped := by
  induction h with
  | build name columns => exact nofun
  | @addRow t t' values h ht ih =>
    unfold Table.addRow at ht
    split at ht
    · cases ht
    · next hcount =>
      obtain ⟨u, hcheck, ht⟩ := bind_eq_ok_iff.mp ht
      cases ht
      intro cells hcells i v hv
      rcases List.mem_append.mp hcells with hold | hnew
      · exact ih cells hold i v hv
      · rw [List.mem_singleton.mp hnew, padTo] at hv
        have hi : i < t.columns.length := by
          have hlt := (List.getElem?_eq_some_iff.mp hv).1
          rw [List.length_append, List.length_replicate] at hlt
          omega
        refine ⟨t.columns[i], List.getElem?_eq_getElem hi, ?_⟩
        rw [List.getElem?_append] at hv
        split at hv
        · exact admits_of_checkCells hcheck (List.getElem?_eq_getElem hi) hv
        · -- a cell that was missing
          obtain rfl := List.eq_of_mem_replicate (List.mem_of_getElem? hv)
          rfl
  | @setCell t t' row column w h ht ih =>
    unfold Table.setCell at ht
    split at ht
    · cases ht
    · next index c hcolumn =>
      obtain ⟨u, hcheck, ht⟩ := bind_eq_ok_iff.mp ht
      split at ht
      · cases ht
      · next old hold =>
        cases ht
        intro cells hcells i v hv
        rcases List.mem_or_eq_of_mem_set hcells with hcells | rfl
        · exact ih cells hcells i v hv
        · rw [List.getElem?_set] at hv
          split at hv
          · next hi =>
            split at hv
            · cases hv
              subst hi
              exact ⟨c, (column?_eq_some hcolumn).1, admits_of_checkCell hcheck⟩
            · cases hv
          · exact ih old (List.mem_of_getElem? hold) i v hv

end Table

/-- A table whose columns can be told apart, are found by their names and know their positions, and
whose rows fit them. -/
structure IndexedTable.Sound (t : IndexedTable) : Prop where
  distinct : (t.columns.map fun c => Text.key c.name).Nodup
  index (i : ℕ) (c : IndexedColumn) : t.columns[i]? = some c → c.index = i
  column (name : String) (c : IndexedColumn) :
    t.column? name = some c ↔ c ∈ t.columns ∧ Text.sameName c.name name = true
  width (cells : List Value) : cells ∈ t.rows → cells.length = t.columns.length
  cell (cells : List Value) (i : ℕ) (c : IndexedColumn) (v : Value) : cells ∈ t.rows →
    t.columns[i]? = some c → cells[i]? = some v → v.isUndefined = true ∨ v.valueType = c.type

theorem TableHistory.sound (h : TableHistory) : h.indexed.Sound := by
  obtain ⟨hstep, hplain, hbuilt⟩ := h.indexed_spec
  rw [← hplain] at hbuilt
  refine ⟨?_, hstep.index, fun _ _ => IndexedTable.column?_eq_some_iff hstep, ?_, ?_⟩
  · have hnodup := hbuilt.wellFormed.nodup
    rwa [Table.keys, IndexedTable.plain, List.map_map] at hnodup
  · intro cells hcells
    have hwidth := hbuilt.wellFormed.width cells hcells
    rwa [IndexedTable.plain, List.length_map] at hwidth
  · intro cells i c v hcells hc hv
    obtain ⟨d, hd, hadmits⟩ := hbuilt.wellTyped cells hcells i v hv
    rw [IndexedTable.plain, List.getElem?_map, hc] at hd
    cases hd
    simpa [Table.admits] using hadmits

/-! ## Data sets -/

namespace DataSet

variable {tables : List Table}

/-- What tables are looked up under. -/
def keys (tables : List Table) : List (List Char) := tables.map fun t => Text.key t.name

theorem put_of_not_mem {t : Table} (h : Text.key t.name ∉ keys tables) :
    put t tables = tables ++ [t] := by
  induction tables with
  | nil => rfl
  | cons u rest ih =>
    rw [keys, List.map_cons, List.mem_cons, not_or] at h
    have hother : ¬ Text.sameName u.name t.name = true :=
      fun hname => h.1 (Text.sameName_iff.mp hname).symm
    rw [put, if_neg hother, ih h.2]
    rfl

theorem change_of_not_mem {name : String} {f : Table → Table} (h : Text.key name ∉ keys tables) :
    update.change name f tables = tables := by
  induction tables with
  | nil => rfl
  | cons u rest ih =>
    rw [keys, List.map_cons, List.mem_cons, not_or] at h
    have hother : ¬ Text.sameName u.name name = true :=
      fun hname => h.1 (Text.sameName_iff.mp hname).symm
    rw [update.change, if_neg hother, ih h.2]

theorem change_of_getElem? {name : String} {f : Table → Table} {id : ℕ}
    (hnodup : (keys tables).Nodup) (h : (keys tables)[id]? = some (Text.key name)) :
    update.change name f tables = tables.modify id f := by
  induction tables generalizing id with
  | nil => cases h
  | cons u rest ih =>
    obtain ⟨hfirst, hrest⟩ := List.nodup_cons.mp hnodup
    rw [update.change]
    cases id with
    | zero => rw [if_pos (Text.sameName_iff.mpr (Option.some.inj h))]; rfl
    | succ id =>
      have hother : ¬ Text.sameName u.name name = true := by
        intro hname
        have hmem := List.mem_of_getElem? (show (keys rest)[id]? = some (Text.key name) from h)
        rw [← Text.sameName_iff.mp hname] at hmem
        exact hfirst hmem
      rw [if_neg hother, ih hrest h]
      rfl

/-- To put a table where there is one of its name is to change that one into it. -/
theorem put_of_mem {t : Table} (h : Text.key t.name ∈ keys tables) :
    put t tables = update.change t.name (fun _ => t) tables := by
  induction tables with
  | nil => cases h
  | cons u rest ih =>
    rw [put, update.change]
    by_cases hname : Text.sameName u.name t.name = true
    · rw [if_pos hname, if_pos hname]
    · have hrest : Text.key t.name ∈ keys rest :=
        (List.mem_cons.mp h).resolve_left fun hkey => hname (Text.sameName_iff.mpr hkey.symm)
      rw [if_neg hname, if_neg hname, ih hrest]

end DataSet

namespace IndexedDataSet

def keys (d : IndexedDataSet) : List (List Char) := d.tables.map fun t => Text.key t.name

/-- The data set without what is kept beside its tables and columns. -/
def plain (d : IndexedDataSet) : DataSet := ⟨d.tables.map IndexedTable.plain⟩

/-- The map tells where the tables are, and each of them has come about by a history. -/
structure InStep (d : IndexedDataSet) : Prop where
  ids : d.ids.InStep d.keys
  made (t : IndexedTable) : t ∈ d.tables → ∃ h : TableHistory, h.indexed = t

variable {d : IndexedDataSet}

theorem keys_plain : DataSet.keys d.plain.tables = d.keys := by
  rw [DataSet.keys, plain, List.map_map]
  rfl

theorem addTable_cases (h : d.ids.InStep d.keys) (t : IndexedTable) :
    (Text.key t.name ∉ d.keys ∧
      d.addTable t = ⟨d.tables ++ [t], d.ids.insert (Text.key t.name) d.tables.length⟩) ∨
    ∃ id, d.keys[id]? = some (Text.key t.name) ∧
      d.addTable t = ⟨d.tables.modify id fun _ => t, d.ids⟩ := by
  rw [addTable]
  cases hid : d.ids[Text.key t.name]? with
  | none => exact .inl ⟨h.getElem?_eq_none_iff.mp hid, rfl⟩
  | some id =>
    refine .inr ⟨id, (h.getElem?_eq_some_iff _ id).mp hid, ?_⟩
    show (⟨d.tables.set id t, d.ids⟩ : IndexedDataSet) = _
    rw [List.set_eq_modify]

theorem change_cases (h : d.ids.InStep d.keys) (name : String) (c : RowChange) :
    (Text.key name ∉ d.keys ∧ d.change name c = d) ∨
    ∃ id, d.keys[id]? = some (Text.key name) ∧
      d.change name c = ⟨d.tables.modify id fun t => (c.act.run t).2, d.ids⟩ := by
  rw [change]
  cases hid : d.ids[Text.key name]? with
  | none => exact .inl ⟨h.getElem?_eq_none_iff.mp hid, rfl⟩
  | some id => exact .inr ⟨id, (h.getElem?_eq_some_iff _ id).mp hid, rfl⟩

/-! ### A table in the place of another -/

section Modify

variable {id : ℕ} {f : IndexedTable → IndexedTable}

theorem keys_modify (hf : ∀ t, d.tables[id]? = some t → Text.key (f t).name = Text.key t.name) :
    keys ⟨d.tables.modify id f, d.ids⟩ = d.keys := by
  apply List.ext_getElem?
  intro i
  rw [keys, keys, List.getElem?_map, List.getElem?_map, List.getElem?_modify]
  by_cases hi : id = i
  · subst hi
    cases ht : d.tables[id]? with
    | none => simp
    | some t => simp [hf t ht]
  · simp [hi]

theorem table?_modify (h : d.ids.InStep d.keys) {key : List Char} (hid : d.keys[id]? = some key)
    (name : String) :
    table? ⟨d.tables.modify id f, d.ids⟩ name =
      if key = Text.key name then (d.table? name).map f else d.table? name := by
  rw [table?, table?]
  cases hj : d.ids[Text.key name]? with
  | none => simp
  | some j =>
    have hkey : d.keys[j]? = some (Text.key name) := (h.getElem?_eq_some_iff _ j).mp hj
    have hiff : id = j ↔ key = Text.key name := by
      constructor
      · rintro rfl
        exact Option.some.inj (hid.symm.trans hkey)
      · rintro rfl
        have hid' := (h.getElem?_eq_some_iff _ id).mpr hid
        exact Option.some.inj (hid'.symm.trans hj)
    simp only [Option.bind_some, List.getElem?_modify, ← hiff]
    split
    · rfl
    · simp

theorem mem_modify {t : IndexedTable} (ht : t ∈ d.tables.modify id f) :
    t ∈ d.tables ∨ ∃ u ∈ d.tables, t = f u := by
  obtain ⟨i, hi⟩ := List.mem_iff_getElem?.mp ht
  rw [List.getElem?_modify] at hi
  split at hi
  · obtain ⟨u, hu, rfl⟩ := Option.map_eq_some_iff.mp hi
    exact .inr ⟨u, List.mem_of_getElem? hu, rfl⟩
  · exact .inl (List.mem_of_getElem? (by simpa using hi))

theorem plain_modify {g : Table → Table}
    (hf : ∀ t, d.tables[id]? = some t → (f t).plain = g t.plain) :
    plain ⟨d.tables.modify id f, d.ids⟩ = ⟨d.plain.tables.modify id g⟩ := by
  apply congrArg DataSet.mk
  apply List.ext_getElem?
  intro i
  rw [List.getElem?_map, List.getElem?_modify, List.getElem?_modify, plain, List.getElem?_map]
  by_cases hi : id = i
  · subst hi
    cases ht : d.tables[id]? with
    | none => simp
    | some t => simp [hf t ht]
  · simp [hi]

end Modify

/-! ### One event -/

theorem table?_addTable (h : d.ids.InStep d.keys) (t : IndexedTable) (name : String) :
    (d.addTable t).table? name = if Text.sameName t.name name then some t else d.table? name := by
  rcases addTable_cases h t with ⟨hnew, heq⟩ | ⟨id, hid, heq⟩
  · rw [heq, table?, table?, Std.HashMap.getElem?_insert]
    by_cases hname : Text.key t.name = Text.key name
    · simp [hname, Text.sameName]
    · cases hj : d.ids[Text.key name]? with
      | none => simp [hname, Text.sameName]
      | some j =>
        have hlt : j < d.tables.length := by
          have hkey := (h.getElem?_eq_some_iff _ j).mp hj
          simpa [keys] using (List.getElem?_eq_some_iff.mp hkey).1
        simp [hname, Text.sameName, List.getElem?_append_left hlt]
  · rw [heq, table?_modify h hid]
    by_cases hname : Text.key t.name = Text.key name
    · -- there is a table to be replaced
      have hsome : (d.table? name).isSome := by
        rw [hname] at hid
        have hlt : id < d.tables.length := by
          simpa [keys] using (List.getElem?_eq_some_iff.mp hid).1
        simp [table?, (h.getElem?_eq_some_iff _ id).mpr hid, hlt]
      obtain ⟨u, hu⟩ := Option.isSome_iff_exists.mp hsome
      simp [hname, Text.sameName, hu]
    · simp [hname, Text.sameName]

theorem table?_change (h : d.ids.InStep d.keys) (m : String) (c : RowChange) (name : String) :
    (d.change m c).table? name =
      if Text.sameName m name then (d.table? name).map fun t => (c.act.run t).2
      else d.table? name := by
  rcases change_cases h m c with ⟨hnone, heq⟩ | ⟨id, hid, heq⟩
  · rw [heq]
    split
    · next hname =>
      rw [Text.sameName_iff.mp hname] at hnone
      simp [table?, h.getElem?_eq_none_iff.mpr hnone]
    · rfl
  · rw [heq, table?_modify h hid]
    simp [Text.sameName]

theorem keys_addTable (h : d.ids.InStep d.keys) (t : IndexedTable) :
    (d.addTable t).keys =
      if Text.key t.name ∈ d.keys then d.keys else d.keys ++ [Text.key t.name] := by
  rcases addTable_cases h t with ⟨hnew, heq⟩ | ⟨id, hid, heq⟩
  · rw [heq, if_neg hnew]
    simp [keys]
  · rw [heq, if_pos (List.mem_of_getElem? hid), keys_modify]
    intro u hu
    rw [keys, List.getElem?_map, hu] at hid
    exact (Option.some.inj hid).symm

theorem InStep.addTable (h : d.InStep) (made : TableHistory) :
    (d.addTable made.indexed).InStep where
  ids := by
    rw [keys_addTable h.ids]
    rcases addTable_cases h.ids made.indexed with ⟨hnew, heq⟩ | ⟨id, hid, heq⟩
    · rw [heq, if_neg hnew]
      have hids := h.ids.insert hnew
      rwa [keys, List.length_map] at hids
    · rw [heq, if_pos (List.mem_of_getElem? hid)]
      exact h.ids
  made t ht := by
    rcases addTable_cases h.ids made.indexed with ⟨hnew, heq⟩ | ⟨id, hid, heq⟩
    · rw [heq] at ht
      rcases List.mem_append.mp ht with ht | ht
      · exact h.made t ht
      · exact ⟨made, (List.mem_singleton.mp ht).symm⟩
    · rw [heq] at ht
      rcases mem_modify ht with ht | ⟨u, -, rfl⟩
      · exact h.made t ht
      · exact ⟨made, rfl⟩

theorem keys_change (h : d.InStep) (name : String) (c : RowChange) :
    (d.change name c).keys = d.keys := by
  rcases change_cases h.ids name c with ⟨-, heq⟩ | ⟨id, hid, heq⟩
  · rw [heq]
  · rw [heq, keys_modify]
    intro t ht
    obtain ⟨made, rfl⟩ := h.made t (List.mem_of_getElem? ht)
    rw [← TableHistory.indexed_append, TableHistory.indexed_name, TableHistory.indexed_name]

theorem InStep.change (h : d.InStep) (name : String) (c : RowChange) :
    (d.change name c).InStep where
  ids := by
    rw [keys_change h]
    rcases change_cases h.ids name c with ⟨-, heq⟩ | ⟨id, -, heq⟩
    · rw [heq]
      exact h.ids
    · rw [heq]
      exact h.ids
  made t ht := by
    rcases change_cases h.ids name c with ⟨-, heq⟩ | ⟨id, -, heq⟩
    · rw [heq] at ht
      exact h.made t ht
    · rw [heq] at ht
      rcases mem_modify ht with ht | ⟨u, hu, rfl⟩
      · exact h.made t ht
      · obtain ⟨made, rfl⟩ := h.made u hu
        exact ⟨_, TableHistory.indexed_append _ _ _ _⟩

/-! ### The same without the maps -/

theorem plain_addTable (h : d.InStep) (made : TableHistory) :
    (d.addTable made.indexed).plain = d.plain.addTable made.table := by
  have hname : Text.key made.table.name = Text.key made.indexed.name := by
    rw [made.table_name, made.indexed_name]
  rw [DataSet.addTable]
  rcases addTable_cases h.ids made.indexed with ⟨hnew, heq⟩ | ⟨id, hid, heq⟩
  · rw [heq, DataSet.put_of_not_mem (by rwa [keys_plain, hname])]
    simp [plain, made.indexed_spec.2.1]
  · rw [← hname, ← keys_plain] at hid
    rw [heq, DataSet.put_of_mem (List.mem_of_getElem? hid),
      DataSet.change_of_getElem? (keys_plain ▸ h.ids.nodup) hid]
    exact plain_modify fun _ _ => made.indexed_spec.2.1

theorem plain_change (h : d.InStep) (name : String) (c : RowChange) :
    (d.change name c).plain = d.plain.update name c.apply := by
  rw [DataSet.update]
  rcases change_cases h.ids name c with ⟨hnone, heq⟩ | ⟨id, hid, heq⟩
  · rw [heq, DataSet.change_of_not_mem (by rwa [keys_plain])]
  · rw [← keys_plain] at hid
    rw [heq, DataSet.change_of_getElem? (keys_plain ▸ h.ids.nodup) hid]
    apply plain_modify
    intro t ht
    obtain ⟨made, rfl⟩ := h.made t (List.mem_of_getElem? ht)
    obtain ⟨hstep, hplain, hbuilt⟩ := made.indexed_spec
    exact (IndexedTable.act_spec hstep (hplain ▸ hbuilt.wellFormed) c).2

theorem plain_table? (h : d.InStep) (name : String) :
    d.plain.table? name = (d.table? name).map IndexedTable.plain := by
  have hdistinct : d.plain.tables.Pairwise fun a b => Text.sameName a.name b.name = false := by
    have hnodup := h.ids.nodup
    rw [← keys_plain, DataSet.keys, List.nodup_iff_pairwise_ne, List.pairwise_map] at hnodup
    exact hnodup.imp fun hne => Bool.eq_false_iff.mpr fun hname => hne (Text.sameName_iff.mp hname)
  apply Option.ext
  intro t
  rw [DataSet.table?, Text.find?_eq_some_iff hdistinct, Option.map_eq_some_iff, plain, List.mem_map]
  simp only [table?, h.ids.bind_eq_some_iff, ← Text.sameName_iff]
  constructor
  · rintro ⟨⟨u, hu, rfl⟩, hname⟩
    exact ⟨u, ⟨hu, hname⟩, rfl⟩
  · rintro ⟨u, ⟨hu, hname⟩, rfl⟩
    exact ⟨⟨u, hu, rfl⟩, hname⟩

/-! ## Histories -/

/-- The keys of the tables that come in, in this order. -/
def addedKeys (events : List DataSet.Event) : List (List Char) :=
  events.filterMap fun
    | .add made => some (Text.key made.name)
    | .change _ _ => none

/-- The changes to what goes by a name. -/
def changesTo (name : String) (events : List DataSet.Event) : List RowChange :=
  events.filterMap fun
    | .add _ => none
    | .change m c => if Text.sameName m name then some c else none

/-- Of the tables that came in under a name, this is the last one, with the changes made since. -/
def IsLast (events : List DataSet.Event) (name : String) (h : TableHistory) : Prop :=
  ∃ before made after, events = before ++ .add made :: after ∧
    Text.sameName made.name name = true ∧
    (∀ other, .add other ∈ after → Text.sameName other.name name = false) ∧
    h = { made with changes := made.changes ++ changesTo name after }

theorem isLast_nil {name : String} {h : TableHistory} : ¬ IsLast [] name h := by
  rintro ⟨before, made, after, hevents, -⟩
  simp at hevents

theorem isLast_add {events : List DataSet.Event} {name : String} {made h : TableHistory} :
    IsLast (events ++ [.add made]) name h ↔
      if Text.sameName made.name name then h = made else IsLast events name h := by
  simp only [IsLast, append_singleton_eq_append_cons]
  constructor
  · rintro ⟨before, m, after, ⟨rfl, -, hm⟩ | ⟨rest, rfl, rfl⟩, hname, hlater, rfl⟩
    · cases hm
      rw [if_pos hname]
      simp [changesTo]
    · have hother := hlater made (by simp)
      rw [if_neg (by simp [hother])]
      refine ⟨before, m, rest, rfl, hname, fun other hmem => hlater other (by simp [hmem]), ?_⟩
      simp [changesTo]
  · split
    · next hname =>
      rintro rfl
      exact ⟨events, h, [], .inl ⟨rfl, rfl, rfl⟩, hname, by simp, by simp [changesTo]⟩
    · next hname =>
      rintro ⟨before, m, after, rfl, hm, hlater, rfl⟩
      refine ⟨before, m, after ++ [.add made], .inr ⟨after, rfl, rfl⟩, hm, ?_, by simp [changesTo]⟩
      intro other hother
      rcases List.mem_append.mp hother with hother | hother
      · exact hlater other hother
      · cases List.mem_singleton.mp hother
        exact Bool.eq_false_iff.mpr hname

theorem isLast_change {events : List DataSet.Event} {name m : String} {c : RowChange}
    {h : TableHistory} :
    IsLast (events ++ [.change m c]) name h ↔
      ∃ h', IsLast events name h' ∧
        h = { h' with changes := h'.changes ++ if Text.sameName m name then [c] else [] } := by
  have hchanges (after : List DataSet.Event) : changesTo name (after ++ [.change m c]) =
      changesTo name after ++ if Text.sameName m name then [c] else [] := by
    rw [changesTo, List.filterMap_append]
    by_cases hname : Text.sameName m name = true <;> simp [hname, changesTo]
  simp only [IsLast, append_singleton_eq_append_cons]
  constructor
  · rintro ⟨before, made, after, ⟨-, -, hm⟩ | ⟨rest, rfl, rfl⟩, hname, hlater, rfl⟩
    · cases hm
    · refine ⟨_, ⟨before, made, rest, rfl, hname, ?_, rfl⟩, ?_⟩
      · exact fun other hmem => hlater other (by simp [hmem])
      · rw [hchanges, List.append_assoc]
  · rintro ⟨_, ⟨before, made, after, rfl, hname, hlater, rfl⟩, rfl⟩
    refine ⟨before, made, after ++ [.change m c], .inr ⟨after, rfl, rfl⟩, hname, ?_, ?_⟩
    · intro other hother
      exact hlater other (by simpa using hother)
    · rw [hchanges, List.append_assoc]

theorem ofHistory_append (events : List DataSet.Event) (e : DataSet.Event) :
    ofHistory (events ++ [e]) = (ofHistory events).next e := by
  simp [ofHistory]

theorem inStep_ofHistory (events : List DataSet.Event) : (ofHistory events).InStep := by
  induction events using List.reverseRecOn with
  | nil => exact ⟨.empty, nofun⟩
  | append_singleton events e ih =>
    rw [ofHistory_append]
    cases e with
    | add made => exact ih.addTable made
    | change name c => exact ih.change name c

theorem plain_ofHistory (events : List DataSet.Event) :
    (ofHistory events).plain = DataSet.ofHistory events := by
  induction events using List.reverseRecOn with
  | nil => rfl
  | append_singleton events e ih =>
    have hlast : DataSet.ofHistory (events ++ [e]) = (DataSet.ofHistory events).next e := by
      simp [DataSet.ofHistory]
    have hstep := inStep_ofHistory events
    rw [ofHistory_append, hlast, ← ih]
    cases e with
    | add made => exact plain_addTable hstep made
    | change name c => exact plain_change hstep name c

theorem keys_ofHistory (events : List DataSet.Event) :
    (ofHistory events).keys = (addedKeys events).eraseDups := by
  induction events using List.reverseRecOn with
  | nil => rfl
  | append_singleton events e ih =>
    have hstep := inStep_ofHistory events
    rw [ofHistory_append, addedKeys, List.filterMap_append]
    cases e with
    | add made =>
      rw [next, keys_addTable hstep.ids, ih, made.indexed_name, ← addedKeys]
      by_cases hmem : Text.key made.name ∈ addedKeys events
      · simp [List.eraseDups_append, List.removeAll, hmem]
      · simp [List.eraseDups_append, List.removeAll, List.eraseDups_cons, hmem]
    | change name c =>
      rw [next, keys_change hstep, ih]
      simp [addedKeys]

theorem table?_ofHistory (events : List DataSet.Event) (name : String) (t : IndexedTable) :
    (ofHistory events).table? name = some t ↔ ∃ h, IsLast events name h ∧ h.indexed = t := by
  induction events using List.reverseRecOn generalizing t with
  | nil => simp [isLast_nil, ofHistory, empty, table?]
  | append_singleton events e ih =>
    have hids := (inStep_ofHistory events).ids
    rw [ofHistory_append]
    cases e with
    | add made =>
      rw [next, table?_addTable hids, made.indexed_name]
      simp only [isLast_add]
      split
      · simp
      · exact ih t
    | change m c =>
      rw [next, table?_change hids]
      simp only [isLast_change]
      split
      · rw [Option.map_eq_some_iff]
        simp only [ih]
        constructor
        · rintro ⟨_, ⟨h, hlast, rfl⟩, rfl⟩
          exact ⟨_, ⟨h, hlast, rfl⟩, TableHistory.indexed_append _ _ _ _⟩
        · rintro ⟨_, ⟨h, hlast, rfl⟩, rfl⟩
          exact ⟨_, ⟨h, hlast, rfl⟩, (TableHistory.indexed_append _ _ _ _).symm⟩
      · simpa using ih t

/-- Tables are sound after any history, also those of a data set. No two tables of a data set go by
the same name, the names stand in the order in which they first came in, and under a name stands the
last table that came in under it, with the changes made since. A change that fails leaves its table
as it was. Without the maps all this is the plain data set, and lookups find the same. -/
theorem sound_ofHistory (events : List DataSet.Event) :
    (∀ h : TableHistory, h.indexed.Sound) ∧
      (∀ t ∈ (ofHistory events).tables, t.Sound) ∧
      ((ofHistory events).keys.Nodup ∧ (ofHistory events).keys = (addedKeys events).eraseDups) ∧
      (∀ name t, (ofHistory events).table? name = some t ↔
        ∃ h, IsLast events name h ∧ h.indexed = t) ∧
      (∀ (t : IndexedTable) (c : RowChange) (e : Error),
        (c.act.run t).1 = .error e → (c.act.run t).2 = t) ∧
      (ofHistory events).plain = DataSet.ofHistory events ∧
      ∀ name, (DataSet.ofHistory events).table? name =
        ((ofHistory events).table? name).map IndexedTable.plain := by
  have hstep := inStep_ofHistory events
  refine ⟨TableHistory.sound, ?_, ⟨hstep.ids.nodup, keys_ofHistory events⟩,
    table?_ofHistory events, fun t c e => IndexedTable.run_act_of_error,
    plain_ofHistory events, ?_⟩
  · intro t ht
    obtain ⟨h, rfl⟩ := hstep.made t ht
    exact h.sound
  · intro name
    rw [← plain_ofHistory, plain_table? hstep]

end IndexedDataSet

end RowFilter
