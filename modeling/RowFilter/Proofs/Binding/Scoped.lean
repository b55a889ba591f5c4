import RowFilter.Proofs.Binding.Compiled
import RowFilter.Proofs.Query.Layout
import RowFilter.Proofs.Selection.Specification

/-!
What a text is bound to is well scoped, whatever tables its statements refer to in turn. Each tree
belongs to a table of the scope; its columns, calls and lists are in order there. So what is checked
while binding need not be feared on a row.
-/

namespace RowFilter

open Syntax

/-! ## Expressions -/

theorem Value.isLiteral_ofNat (n : Nat) : (Value.ofNat n).IsLiteral := by
  have hnonneg (t : IntType) {w : Word t} (hw : Word.ofInt? t n = some w) : 0 ≤ w.toInt := by
    rw [Word.ofInt?_eq_some_iff.mp hw]
    exact Int.natCast_nonneg n
  unfold Value.ofNat
  split
  · next w _ _ hw => exact ⟨nofun, hnonneg _ hw⟩
  · next w _ _ hw => exact ⟨nofun, hnonneg _ hw⟩
  · next w _ _ hw => exact ⟨nofun, hnonneg _ hw⟩
  · exact trivial

theorem isLiteral_of_value {l : Literal} {v : Value} (h : l.value = .ok v) : v.IsLiteral := by
  cases l with
  | null | boolean | string | measurementKey | pointTag => cases h; exact trivial
  | integer text =>
    have hread := required_eq_ok h
    unfold Literal.readInteger? at hread
    split at hread
    · next n _ =>
      cases hread
      exact Value.isLiteral_ofNat n
    · obtain ⟨x, -, rfl⟩ := Option.map_eq_some_iff.mp hread
      exact trivial
  | numeric | guid | dateTime =>
    obtain ⟨x, -, rfl⟩ := Option.map_eq_some_iff.mp (required_eq_ok h)
    exact trivial

theorem Expression.Compiled.wellScoped {t : Table} {e : Expression} (h : e.Compiled t) :
    e.WellScoped t := by
  induction h with
  | value h => exact .value (isLiteral_of_value h)
  | column _ h => exact .column (isIn_of_resolve h)
  | unary _ ih => exact .unary ih
  | operator _ _ ihl ihr => exact .operator ihl ihr
  | function hcount _ ih => exact .function hcount ih
  | inList _ hsome _ ih ihs => exact .inList ih hsome ihs
  | isNull _ ih => exact .isNull ih

/-! ## Trees -/

/-- A tree with an expression, all of which is in order in the table that the tree names. -/
structure ExpressionTree.WellScoped (tree : ExpressionTree) (t : Table) : Prop where
  name : t.name = tree.table
  root : ∃ e, tree.root = some e ∧ e.WellScoped t
  orderBy : ∀ term ∈ tree.orderBy, term.column.IsIn t

theorem ExpressionTree.Compiled.wellScoped {tree : ExpressionTree} {t : Table}
    (h : tree.Compiled t) : tree.WellScoped t := by
  obtain ⟨e, hroot, he⟩ := h.root
  exact ⟨h.name, ⟨e, hroot, he.wellScoped⟩, h.orderBy⟩

theorem wellScoped_bindText {text : String} {scope : Scope} {options : Options} {b : Bound}
    (h : (bindText text scope options).1 = .ok b) :
    ∀ tree ∈ b.trees, ∃ t, scope.Holds t ∧ tree.WellScoped t := by
  intro tree htree
  obtain ⟨t, hholds, ht⟩ := compiled_bindText h tree htree
  exact ⟨t, hholds, ht.wellScoped⟩

/-- Every tree that a text is bound to belongs to a table of the scope, in which its root and its
order are well scoped. On a row of the table it is never evaluated to a wrong number of arguments,
and its value is the same whatever cells may follow those of the row. -/
theorem bindText_wellScoped {text : String} {scope : Scope} {options : Options} {b : Bound}
    (hbuilt : ∀ t ∈ scope.tables, t.Built) (h : (bindText text scope options).1 = .ok b) :
    ∀ tree ∈ b.trees, ∃ t ∈ scope.tables, scope.table? tree.table = some t ∧ tree.WellScoped t ∧
      ∀ row ∈ t.rowList, row.cells.length = t.columns.length ∧
        ∀ clock : Clock,
          (∀ source expected received, tree.evaluate clock row ≠
            .error (.evaluation source (.arity expected received))) ∧
          ∀ more, tree.evaluate clock ⟨row.index, row.cells ++ more⟩ = tree.evaluate clock row := by
  intro tree htree
  obtain ⟨t, ⟨hmem, htable⟩, hscoped⟩ := wellScoped_bindText h tree htree
  refine ⟨t, hmem, by rwa [← hscoped.name], hscoped, fun row hrow => ?_⟩
  obtain ⟨e, hroot, he⟩ := hscoped.root
  have hwidth : row.cells.length = t.columns.length :=
    (hbuilt t hmem).wellFormed.width row.cells (Table.cells_mem_rows hrow)
  have hvalue (clock : Clock) (row : Row) : tree.evaluate clock row = e.evaluate clock row := by
    rw [ExpressionTree.evaluate, hroot]
  refine ⟨hwidth, fun clock => ⟨fun source expected received hfault => ?_, fun more => ?_⟩⟩
  · rw [hvalue] at hfault
    exact he.fails_evaluate clock row _ hfault
  · rw [hvalue, hvalue, he.evaluate_append clock hwidth]

/-- Open valves by name. -/
def openValves : ExpressionTree :=
  ⟨"Valves", -1, [⟨⟨"Name", 1⟩, true, false⟩], some (.column ⟨"Open", 0⟩)⟩

theorem bindText_openValves :
    (∀ t ∈ (Scope.table Table.valves).tables, t.Built) ∧
      (bindText "FILTER Valves WHERE Open ORDER BY Name" (.table Table.valves)
        (Table.valves.queryOptions true)).1 = .ok ⟨[openValves], []⟩ ∧
      ∃ t ∈ (Scope.table Table.valves).tables,
        (Scope.table Table.valves).table? openValves.table = some t ∧ openValves.WellScoped t ∧
          ∀ row ∈ t.rowList, row.cells.length = t.columns.length ∧
            ∀ clock : Clock,
              (∀ source expected received, openValves.evaluate clock row ≠
                .error (.evaluation source (.arity expected received))) ∧
              ∀ more, openValves.evaluate clock ⟨row.index, row.cells ++ more⟩ =
                openValves.evaluate clock row := by
  have hbuilt : ∀ t ∈ (Scope.table Table.valves).tables, t.Built :=
    List.forall_mem_singleton.mpr Table.built_valves
  have hbind : (bindText "FILTER Valves WHERE Open ORDER BY Name" (.table Table.valves)
      (Table.valves.queryOptions true)).1 = .ok ⟨[openValves], []⟩ := by
    rw [bindText_fst, Table.parse_openValves]
    rfl
  exact ⟨hbuilt, hbind, bindText_wellScoped hbuilt hbind _ List.mem_cons_self⟩

end RowFilter
