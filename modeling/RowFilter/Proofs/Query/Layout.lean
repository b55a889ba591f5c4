import RowFilter.Proofs.Binding.Bound
import RowFilter.Proofs.Evaluation.Relocation
import RowFilter.Proofs.Query.Identifier
import RowFilter.Proofs.Selection.Specification
import RowFilter.Proofs.Table.Built

/-!
The layout of columns does not matter. A table may hold all columns of another one at other places,
with more columns beside them: what a text selects from the first, and what it is on its rows, is
what it selects from the second and is on the rows there.
-/

namespace RowFilter

open Syntax

namespace Table

/-! ## Columns at other places -/

/-- The second table has the name of the first one, as many rows, and every column of it with the
same cells, at some place. -/
structure EmbedsIn (t t' : Table) : Prop where
  name : t'.name = t.name
  count : t'.rows.length = t.rows.length
  column : ∀ (k : Nat) (c : Column), t.columns[k]? = some c →
    ∃ k', t'.columns[k']? = some c ∧ ∀ (i : Nat) (r r' : Row), t.row? i = some r →
      t'.row? i = some r' → r'.cell k' = r.cell k

/-- Where a column of the first table is in the second one. A place without a column has a place
without one for its counterpart. -/
def counterpart (t t' : Table) (c : ColumnRef) : ColumnRef :=
  match (t.columns[c.index]?).bind fun column => t'.column? column.name with
  | some (index, column) => ⟨column.name, index⟩
  | none => ⟨c.name, t'.columns.length⟩

section

variable {t t' : Table}

theorem counterpart_of_column? {c : ColumnRef} {column column' : Column} {index : Nat}
    (hcolumn : t.columns[c.index]? = some column)
    (hindex : t'.column? column.name = some (index, column')) :
    t.counterpart t' c = ⟨column'.name, index⟩ := by
  rw [counterpart, hcolumn, Option.bind_some, hindex]

theorem EmbedsIn.moves (h : t.EmbedsIn t') (ht' : t'.WellFormed) :
    t.Moves (t.counterpart t') t' := by
  intro name c hc
  unfold resolve at hc
  split at hc
  · next index column hcolumn =>
    cases hc
    obtain ⟨hplace, hname⟩ := column?_eq_some hcolumn
    obtain ⟨k', hk', -⟩ := h.column index column hplace
    have hfound : t'.column? name = some (k', column) := ht'.column?_of_getElem? hk' hname
    have hown : t'.column? column.name = some (k', column) := by
      rw [column?_congr hname]
      exact hfound
    rw [resolve, hfound, counterpart_of_column? (c := ⟨column.name, index⟩) hplace hown]
  · cases hc

/-- Beyond its last column a row shows nothing. -/
theorem cell_of_length_le {i k : Nat} {r : Row} (ht : t.WellFormed) (hr : t.row? i = some r)
    (hk : t.columns.length ≤ k) : r.cell k = .undefined := by
  obtain ⟨cells, hcells, rfl⟩ := Option.map_eq_some_iff.mp hr
  have hwidth := ht.width cells (List.mem_of_getElem? hcells)
  have hnone : cells[k]? = none := List.getElem?_eq_none (by rw [hwidth]; exact hk)
  rw [Row.cell, List.getD_eq_getElem?_getD, hnone]
  rfl

theorem EmbedsIn.moves_row (h : t.EmbedsIn t') (ht : t.WellFormed) (ht' : t'.WellFormed)
    {i : Nat} {r r' : Row} (hr : t.row? i = some r) (hr' : t'.row? i = some r') :
    r.Moves (t.counterpart t') r' := by
  intro c
  cases hcolumn : t.columns[c.index]? with
  | none =>
    have hnone : t.counterpart t' c = ⟨c.name, t'.columns.length⟩ := by
      rw [counterpart, hcolumn, Option.bind_none]
    rw [hnone, cell_of_length_le ht' hr' (Nat.le_refl _),
      cell_of_length_le ht hr (List.getElem?_eq_none_iff.mp hcolumn)]
  | some column =>
    obtain ⟨k', hk', hcells⟩ := h.column c.index column hcolumn
    have hown := ht'.column?_of_getElem? hk' (Text.sameName_refl column.name)
    rw [counterpart_of_column? hcolumn hown]
    exact hcells i r r' hr hr'

end

/-! ## Trees at other places -/

end Table

namespace ExpressionTree

/-- The same tree with other columns, in its expression and in its order. -/
def mapColumns (f : ColumnRef → ColumnRef) (tree : ExpressionTree) : ExpressionTree :=
  { tree with
    orderBy := tree.orderBy.map fun o => { o with column := f o.column }
    root := tree.root.map (Expression.mapColumns f) }

variable {f : ColumnRef → ColumnRef} {clock : Clock}

theorem evaluate_mapColumns {r s : Row} (h : r.Moves f s) (tree : ExpressionTree) :
    (tree.mapColumns f).evaluate clock s = tree.evaluate clock r := by
  obtain ⟨table, limit, order, root⟩ := tree
  cases root with
  | none => rfl
  | some e => exact Expression.evaluate_mapColumns h e

theorem compareRows_mapColumns {a b a' b' : Row} (ha : a.Moves f a') (hb : b.Moves f b')
    (terms : List OrderTerm) :
    compareRows (terms.map fun o => { o with column := f o.column }) a' b' =
      compareRows terms a b := by
  induction terms with
  | nil => rfl
  | cons term terms ih =>
    rw [List.map_cons, compareRows, compareRows, ih, OrderTerm.compare, OrderTerm.compare,
      ha term.column, hb term.column]

end ExpressionTree

/-! ## Rows at the same places -/

/-- Rows with the same index, the second of which holds in the columns moved to what the first one
holds in the columns. -/
def Row.Corresponds (f : ColumnRef → ColumnRef) (r s : Row) : Prop :=
  r.index = s.index ∧ r.Moves f s

theorem map_index_of_forall₂ {f : ColumnRef → ColumnRef} {rows rows' : List Row}
    (h : List.Forall₂ (Row.Corresponds f) rows rows') :
    rows'.map Row.index = rows.map Row.index := by
  induction h with
  | nil => rfl
  | cons h _ ih => rw [List.map_cons, List.map_cons, ih, h.1]

theorem Table.row?_of_mem_rowList {t : Table} {r : Row} (h : r ∈ t.rowList) :
    t.row? r.index = some r := by
  obtain ⟨⟨cells, index⟩, hmem, rfl⟩ := List.mem_map.mp h
  have hcells : t.rows[index]? = some cells := List.mem_zipIdx_iff_getElem?.mp hmem
  rw [row?, hcells]
  rfl

theorem Table.EmbedsIn.forall₂_rowList {t t' : Table} (h : t.EmbedsIn t') (ht : t.WellFormed)
    (ht' : t'.WellFormed) :
    List.Forall₂ (Row.Corresponds (t.counterpart t')) t.rowList t'.rowList := by
  have hlength (u : Table) : u.rowList.length = u.rows.length := by
    rw [rowList, List.length_map, List.length_zipIdx]
  refine List.forall₂_iff_get.mpr ⟨by rw [hlength, hlength, h.count], fun i hi hi' => ?_⟩
  have hindex (u : Table) (hu : i < u.rowList.length) : (u.rowList.get ⟨i, hu⟩).index = i := by
    simp [rowList]
  have hrow := row?_of_mem_rowList (t.rowList.get_mem ⟨i, hi⟩)
  have hrow' := row?_of_mem_rowList (t'.rowList.get_mem ⟨i, hi'⟩)
  rw [hindex] at hrow hrow'
  exact ⟨(hindex t hi).trans (hindex t' hi').symm, h.moves_row ht ht' hrow hrow'⟩

namespace ExpressionTree

variable {f : ColumnRef → ColumnRef} {t t' : Table}

/-- Trees and rows that correspond select rows that correspond. -/
theorem forall₂_sorted (tree : ExpressionTree) (clock : Clock)
    (h : List.Forall₂ (Row.Corresponds f) t.rowList t'.rowList) :
    List.Forall₂ (Row.Corresponds f) (tree.sorted clock t) ((tree.mapColumns f).sorted clock t') := by
  have hmatching : List.Forall₂ (Row.Corresponds f) (tree.matching clock t)
      ((tree.mapColumns f).matching clock t') := by
    refine List.rel_filter (fun r r' hr => ?_) h
    have hvalue : (tree.mapColumns f).evaluate clock r' = tree.evaluate clock r :=
      evaluate_mapColumns hr.2 tree
    simp only [selects, hvalue]
  have hempty : (tree.mapColumns f).orderBy.isEmpty = tree.orderBy.isEmpty := List.isEmpty_map
  rw [sorted, sorted, hempty]
  split
  · exact hmatching
  · refine forall₂_stableSort (fun a b a' b' ha hb => ?_) hmatching
    have hcompare := compareRows_mapColumns ha.2 hb.2 tree.orderBy
    exact congrArg (· == .lt) hcompare.symm

theorem forall₂_upTo {rows rows' : List Row} (h : List.Forall₂ (Row.Corresponds f) rows rows')
    (limit : Option Nat) : List.Forall₂ (Row.Corresponds f) (upTo limit rows) (upTo limit rows') := by
  cases limit with
  | none => exact h
  | some n => exact List.forall₂_take n h

/-- The rows selected from both tables are the same ones. -/
theorem select_mapColumns (tree : ExpressionTree) (clock : Clock)
    (hname : Text.sameName t.name tree.table = true) (hnames : t'.name = t.name)
    (h : List.Forall₂ (Row.Corresponds f) t.rowList t'.rowList) :
    ∃ rows rows', (tree.select clock t).1 = .ok rows ∧
      ((tree.mapColumns f).select clock t').1 = .ok rows' ∧
      rows'.map Row.index = rows.map Row.index := by
  have hname' : Text.sameName t'.name (tree.mapColumns f).table = true := by
    rw [hnames]
    exact hname
  refine ⟨_, _, by rw [select, if_pos hname], by rw [select, if_pos hname'], ?_⟩
  have hlimit : (tree.mapColumns f).limit? = tree.limit? := rfl
  rw [rowsOf_fst, rowsOf_fst, hlimit]
  exact map_index_of_forall₂ (forall₂_upTo (tree.forall₂_sorted clock h) tree.limit?)

end ExpressionTree

/-! ## Binding to both tables -/

theorem Scope.filterTable_table_eq_ok_iff {t u : Table} {name : String} :
    (Scope.table t).filterTable name = .ok u ↔ Text.sameName t.name name = true ∧ u = t := by
  rw [filterTable, table?]
  by_cases hname : Text.sameName t.name name = true
  · rw [if_pos hname]
    exact ⟨fun h => ⟨hname, (Except.ok.inj h).symm⟩, fun h => congrArg Except.ok h.2.symm⟩
  · rw [if_neg hname]
    constructor
    · intro h
      cases h
    · intro h
      exact absurd h.1 hname

section

variable {t t' : Table} {f : ColumnRef → ColumnRef} {quiet : Bool}

theorem filterTree_mapColumns (h : t.Moves f t') (hname : t'.name = t.name)
    {clause : FilterClause} {condition : Term} {tree : ExpressionTree}
    (hfilter : Statement.filterTree (.table t) clause condition = .ok tree) :
    Statement.filterTree (.table t') clause condition = .ok (tree.mapColumns f) ∧
      tree.table = t.name := by
  obtain ⟨u, hu, htree⟩ := bind_eq_ok_iff.mp hfilter
  obtain ⟨terms, hterms, htree⟩ := bind_eq_ok_iff.mp htree
  obtain ⟨root, hroot, htree⟩ := bind_eq_ok_iff.mp htree
  obtain ⟨hclause, rfl⟩ := Scope.filterTable_table_eq_ok_iff.mp hu
  cases htree
  have htable : (Scope.table t').filterTable clause.table = .ok t' :=
    Scope.filterTable_table_eq_ok_iff.mpr ⟨by rw [hname]; exact hclause, rfl⟩
  rw [Statement.filterTree, htable, ok_bind, orderTerms_mapColumns h clause.orderBy hterms, ok_bind,
    Term.compile_mapColumns h condition hroot, ok_bind, hname]
  exact ⟨rfl, rfl⟩

theorem expressionTree_mapColumns (h : t.Moves f t') (hname : t'.name = t.name) {e : Term}
    {tree : ExpressionTree}
    (htree : Statement.expressionTree (.table t) (t.queryOptions quiet) e = .ok tree) :
    Statement.expressionTree (.table t') (t'.queryOptions quiet) e = .ok (tree.mapColumns f) ∧
      tree.table = t.name := by
  have hprimary (u : Table) :
      (Scope.table u).primaryTable (u.queryOptions quiet).primaryTable = .ok u := rfl
  rw [Statement.expressionTree, hprimary, ok_bind] at htree
  obtain ⟨root, hroot, htree⟩ := bind_eq_ok_iff.mp htree
  cases htree
  rw [Statement.expressionTree, hprimary, ok_bind, Term.compile_mapColumns h e hroot, ok_bind,
    hname]
  exact ⟨rfl, rfl⟩

/-- The trees of the second table are those of the first one with the columns moved. -/
def Bound.Mirrors (f : ColumnRef → ColumnRef) (table : String) (b b' : Bound) : Prop :=
  b'.trees = b.trees.map (ExpressionTree.mapColumns f) ∧ ∀ tree ∈ b.trees, tree.table = table

theorem Bound.Mirrors.append {table : String} {b b' c c' : Bound} (hb : b.Mirrors f table b')
    (hc : c.Mirrors f table c') : (b.append c).Mirrors f table (b'.append c') := by
  refine ⟨?_, List.forall_mem_append.mpr ⟨hb.2, hc.2⟩⟩
  show b'.trees ++ c'.trees = (b.trees ++ c.trees).map _
  rw [hb.1, hc.1, List.map_append]

theorem mirrors_ofTree {table : String} {x x' : Except Error ExpressionTree}
    (hx : ∀ tree, x = .ok tree → x' = .ok (tree.mapColumns f) ∧ tree.table = table) {b : Bound}
    (hb : (Statement.ofTree x).1 = .ok b) :
    ∃ b', (Statement.ofTree x').1 = .ok b' ∧ b.Mirrors f table b' := by
  cases x with
  | error e => cases hb
  | ok tree =>
    cases hb
    obtain ⟨rfl, htable⟩ := hx tree rfl
    exact ⟨_, rfl, rfl, List.forall_mem_singleton.mpr htable⟩

theorem mirrors_statement (h : t.Moves f t') (hname : t'.name = t.name) (s : Statement) {b : Bound}
    (hb : (s.compile (.table t) (t.queryOptions quiet)).1 = .ok b) :
    ∃ b', (s.compile (.table t') (t'.queryOptions quiet)).1 = .ok b' ∧
      b.Mirrors f t.name b' := by
  cases s with
  | identifier _ i =>
    -- nothing is tracked, so identifiers contribute nothing
    have hnothing (u : Table) :
        (Statement.named (.table u) (u.queryOptions quiet) i).1 = .ok ⟨[], []⟩ := rfl
    obtain rfl : ⟨[], []⟩ = b := Except.ok.inj ((hnothing t).symm.trans hb)
    exact ⟨_, hnothing t', rfl, nofun⟩
  | filter _ clause condition =>
    exact mirrors_ofTree (fun tree => filterTree_mapColumns h hname) hb
  | expression _ e => exact mirrors_ofTree (fun tree => expressionTree_mapColumns h hname) hb

theorem mirrors_compileAll (h : t.Moves f t') (hname : t'.name = t.name) (list : List Statement)
    {b : Bound} (hb : (Statement.compileAll (.table t) (t.queryOptions quiet) list).1 = .ok b) :
    ∃ b', (Statement.compileAll (.table t') (t'.queryOptions quiet) list).1 = .ok b' ∧
      b.Mirrors f t.name b' := by
  induction list generalizing b with
  | nil =>
    cases hb
    exact ⟨_, rfl, rfl, nofun⟩
  | cons s rest ih =>
    rw [compileAll_cons_fst] at hb
    obtain ⟨own, hown, hb⟩ := bind_eq_ok_iff.mp hb
    obtain ⟨more, hmore, hb⟩ := bind_eq_ok_iff.mp hb
    cases hb
    obtain ⟨own', hown', howns⟩ := mirrors_statement h hname s hown
    obtain ⟨more', hmore', hmores⟩ := ih hmore
    rw [compileAll_cons_fst, hown', ok_bind, hmore', ok_bind]
    exact ⟨_, rfl, howns.append hmores⟩

end

namespace Table

/-- The trees of a text are those that it is bound to. -/
theorem bindText_fst_eq (t : Table) (text : String) (quiet : Bool) :
    (t.bindText text quiet).1 = (RowFilter.bindText text (.table t) (t.queryOptions quiet)).1 := by
  rw [Table.bindText]
  split
  · next h => rw [h]
  · next h => rw [h]

theorem onlyTree_eq_ok_iff {t : Table} {text : String} {list : List ExpressionTree}
    {tree : ExpressionTree} : t.onlyTree text list = .ok tree ↔ list = [tree] := by
  match list with
  | [] => exact ⟨nofun, nofun⟩
  | [only] =>
    constructor
    · rintro ⟨⟩
      rfl
    · rintro ⟨⟩
      rfl
  | _ :: _ :: _ => exact ⟨nofun, nofun⟩

/-- A text has a tree if it is bound to that tree alone. -/
theorem tree_eq_ok_iff {t : Table} {text : String} {quiet : Bool} {tree : ExpressionTree} :
    (t.tree text quiet).1 = .ok tree ↔
      ∃ d b, Document.parse text = .ok d ∧
        (Statement.compileAll (.table t) (t.queryOptions quiet) d.statements).1 = .ok b ∧
        b.trees = [tree] := by
  rw [Table.tree, Logged.check_fst, trees, Logged.check_fst, bindText_fst_eq,
    RowFilter.bindText_fst]
  constructor
  · intro h
    obtain ⟨list, hlist, htree⟩ := bind_eq_ok_iff.mp h
    obtain ⟨b, hb, hlist⟩ := bind_eq_ok_iff.mp hlist
    obtain ⟨d, hd, hb⟩ := bind_eq_ok_iff.mp hb
    cases hlist
    exact ⟨d, b, hd, hb, onlyTree_eq_ok_iff.mp htree⟩
  · rintro ⟨d, b, hd, hb, htree⟩
    rw [hd, ok_bind, hb, ok_bind, ok_bind]
    exact onlyTree_eq_ok_iff.mpr htree

/-- A text with a tree for the first table has the tree for the second one, with the columns
moved. -/
theorem tree_mapColumns {t t' : Table} {f : ColumnRef → ColumnRef} (h : t.Moves f t')
    (hname : t'.name = t.name) {text : String} {quiet : Bool} {tree : ExpressionTree}
    (htree : (t.tree text quiet).1 = .ok tree) :
    (t'.tree text quiet).1 = .ok (tree.mapColumns f) ∧ tree.table = t.name := by
  obtain ⟨d, b, hd, hb, hone⟩ := tree_eq_ok_iff.mp htree
  obtain ⟨b', hb', hmap, htables⟩ := mirrors_compileAll h hname d.statements hb
  rw [hone] at hmap htables
  exact ⟨tree_eq_ok_iff.mpr ⟨d, b', hd, hb', hmap⟩, htables tree List.mem_cons_self⟩

/-- The layout of the columns makes no difference: what has one tree for a table has one for every
table in which its columns stand at other places, beside other columns; the rows selected are the
same ones, in the same order, and so are the values and the errors on the rows. -/
theorem query_of_embedsIn {t t' : Table} (ht : t.Built) (ht' : t'.Built) (h : t.EmbedsIn t')
    (clock : Clock) {text : String} {quiet : Bool} {tree : ExpressionTree}
    (htree : (t.tree text quiet).1 = .ok tree) :
    (∃ tree', (t'.tree text quiet).1 = .ok tree') ∧
      (∃ rows rows', (t.select clock text quiet).1 = .ok rows ∧
        (t'.select clock text quiet).1 = .ok rows' ∧
        rows'.map Row.index = rows.map Row.index) ∧
      ∀ i r r', t.row? i = some r → t'.row? i = some r' →
        (t'.evaluate clock r' text quiet).1 = (t.evaluate clock r text quiet).1 := by
  have hmoves := h.moves ht'.wellFormed
  obtain ⟨htree', htable⟩ := tree_mapColumns hmoves h.name htree
  have hrows := h.forall₂_rowList ht.wellFormed ht'.wellFormed
  have hsame : Text.sameName t.name tree.table = true := by
    rw [htable]
    exact Text.sameName_refl t.name
  refine ⟨⟨_, htree'⟩, ?_, fun i r r' hr hr' => ?_⟩
  · rw [Table.select, Table.select, Logged.andThen_fst, Logged.andThen_fst, htree, htree', ok_bind,
      ok_bind]
    exact tree.select_mapColumns clock hsame h.name hrows
  · rw [Table.evaluate, Table.evaluate, Logged.check_fst, Logged.check_fst, htree, htree', ok_bind,
      ok_bind]
    exact ExpressionTree.evaluate_mapColumns
      (h.moves_row ht.wellFormed ht'.wellFormed hr hr') tree

/-- Two valves with their states. -/
def valves : Table :=
  ⟨"Valves", [⟨"Open", .boolean⟩, ⟨"Name", .string⟩],
    [[.boolean true, .string "b"], [.boolean true, .string "a"]]⟩

theorem built_valves : valves.Built := by
  have hfirst : (build "Valves" valves.columns).addRow [.boolean true, .string "b"] =
      .ok ⟨"Valves", valves.columns, [[.boolean true, .string "b"]]⟩ := by
    decide +kernel
  have hsecond : Table.addRow ⟨"Valves", valves.columns, [[.boolean true, .string "b"]]⟩
      [.boolean true, .string "a"] = .ok valves := by
    decide +kernel
  exact .addRow (.addRow (.build _ _) hfirst) hsecond

/-- The valves with their places as well. -/
def placedValves : Table :=
  ⟨"Valves", [⟨"Name", .string⟩, ⟨"Place", .string⟩, ⟨"Open", .boolean⟩],
    [[.string "b", .string "x", .boolean true], [.string "a", .undefined, .boolean true]]⟩

/-- How open valves by name are asked for. -/
theorem parse_openValves : Document.parse "FILTER Valves WHERE Open ORDER BY Name" =
    .ok ⟨⟨1, 1⟩, [.filter ⟨1, 1⟩ ⟨"Valves", none, [⟨"Name", true, false⟩]⟩
      (.column ⟨1, 21⟩ "Open")]⟩ := by
  have htokens : Token.tokenize "FILTER Valves WHERE Open ORDER BY Name" =
      .ok ([⟨.keyword .FILTER, "FILTER", ⟨1, 1⟩⟩, ⟨.identifier "Valves", "Valves", ⟨1, 8⟩⟩,
        ⟨.keyword .WHERE, "WHERE", ⟨1, 15⟩⟩, ⟨.identifier "Open", "Open", ⟨1, 21⟩⟩,
        ⟨.keyword .ORDER, "ORDER", ⟨1, 26⟩⟩, ⟨.keyword .BY, "BY", ⟨1, 32⟩⟩,
        ⟨.identifier "Name", "Name", ⟨1, 35⟩⟩], ⟨1, 39⟩) := by
    decide +kernel
  have hcolumn : Derives (.level .bitwise) 0 [⟨.identifier "Open", "Open", ⟨1, 21⟩⟩]
      (.column ⟨1, 21⟩ "Open") :=
    .level (.first (c := .bitwise) (.level (.first (c := .additive) (.level
      (.first (c := .multiplicative) (.unsigned (.column rfl)))))))
  have hterm : DerivesTerm [⟨.identifier "Open", "Open", ⟨1, 21⟩⟩] (.column ⟨1, 21⟩ "Open") :=
    .level (.first (c := .or) (.level (.first (c := .and)
      (.condition rfl (.predicate (.value hcolumn))))))
  have hordering : DerivesOrdering [⟨.identifier "Name", "Name", ⟨1, 35⟩⟩] ⟨"Name", true, false⟩ :=
    .mk .absent rfl .absent
  have horder : DerivesOrder [⟨.keyword .ORDER, "ORDER", ⟨1, 26⟩⟩, ⟨.keyword .BY, "BY", ⟨1, 32⟩⟩,
      ⟨.identifier "Name", "Name", ⟨1, 35⟩⟩] [⟨"Name", true, false⟩] := by
    have hitems : ∀ i ∈ [([(⟨.identifier "Name", "Name", ⟨1, 35⟩⟩ : Token)],
        (⟨"Name", true, false⟩ : OrderingTerm))], DerivesOrdering i.1 i.2 :=
      List.forall_mem_singleton.mpr hordering
    exact .present rfl rfl (.last _) hitems
  have hstatement := DerivesStatement.filter (o := ⟨.keyword .FILTER, "FILTER", ⟨1, 1⟩⟩)
    (t := ⟨.identifier "Valves", "Valves", ⟨1, 8⟩⟩) (w := ⟨.keyword .WHERE, "WHERE", ⟨1, 15⟩⟩)
    rfl .absent rfl rfl hterm horder
  exact parse_of_derives htokens (.statement hstatement rfl .nil)

/-- Open valves by name are the second and the first one, in either layout. -/
theorem query_of_placedValves :
    valves.Built ∧ placedValves.Built ∧ valves.EmbedsIn placedValves ∧
      (∃ tree, (valves.tree "FILTER Valves WHERE Open ORDER BY Name" true).1 = .ok tree) ∧
      ∃ rows rows',
        (valves.select .millennium "FILTER Valves WHERE Open ORDER BY Name" true).1 = .ok rows ∧
        (placedValves.select .millennium "FILTER Valves WHERE Open ORDER BY Name" true).1 =
          .ok rows' ∧
        rows'.map Row.index = rows.map Row.index := by
  have hplaced : placedValves.Built := by
    have hfirst : (build "Valves" placedValves.columns).addRow
        [.string "b", .string "x", .boolean true] =
          .ok ⟨"Valves", placedValves.columns, [[.string "b", .string "x", .boolean true]]⟩ := by
      decide +kernel
    have hsecond : Table.addRow
        ⟨"Valves", placedValves.columns, [[.string "b", .string "x", .boolean true]]⟩
        [.string "a", .undefined, .boolean true] = .ok placedValves := by
      decide +kernel
    exact .addRow (.addRow (.build _ _) hfirst) hsecond
  have hembeds : valves.EmbedsIn placedValves := by
    refine ⟨rfl, rfl, fun k c hc => ?_⟩
    rcases k with _ | _ | k
    · cases hc
      refine ⟨2, rfl, ?_⟩
      rintro (_ | _ | i) r r' ⟨⟩ ⟨⟩ <;> rfl
    · cases hc
      refine ⟨0, rfl, ?_⟩
      rintro (_ | _ | i) r r' ⟨⟩ ⟨⟩ <;> rfl
    · cases hc
  have htree : (valves.tree "FILTER Valves WHERE Open ORDER BY Name" true).1 =
      .ok ⟨"Valves", -1, [⟨⟨"Name", 1⟩, true, false⟩], some (.column ⟨"Open", 0⟩)⟩ := by
    refine tree_eq_ok_iff.mpr ⟨_, _, parse_openValves, rfl, ?_⟩
    rfl
  exact ⟨built_valves, hplaced, hembeds, ⟨_, htree⟩,
    (query_of_embedsIn built_valves hplaced hembeds .millennium htree).2.1⟩

end Table

end RowFilter
