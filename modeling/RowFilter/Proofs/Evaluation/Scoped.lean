import RowFilter.Proofs.Evaluation.Faults
import RowFilter.Proofs.Evaluation.Relocation
import RowFilter.Proofs.Table.Built

/-!
Expressions that are well scoped in a table: their columns are columns of the table, their calls have
as many arguments as their functions accept, and nothing is looked for in an empty list. On a row as
wide as the table such an expression fails for its values only, and looks at no cell beyond the row.
-/

namespace RowFilter

/-- A value that a literal can stand for. -/
def Value.IsLiteral : Value → Prop
  | integer t n => t ≠ .uint32 ∧ 0 ≤ n.toInt
  | decimal _ => False
  | _ => True

/-- The column is where the reference says, and goes by the name in it. -/
def ColumnRef.IsIn (c : ColumnRef) (t : Table) : Prop :=
  ∃ column, t.columns[c.index]? = some column ∧ column.name = c.name

theorem ColumnRef.IsIn.lt {c : ColumnRef} {t : Table} (h : c.IsIn t) :
    c.index < t.columns.length := by
  obtain ⟨column, hcolumn, -⟩ := h
  exact (List.getElem?_eq_some_iff.mp hcolumn).1

namespace Expression

inductive WellScoped (t : Table) : Expression → Prop where
  | value {v : Value} (h : v.IsLiteral) : WellScoped t (.value v)
  | column {c : ColumnRef} (h : c.IsIn t) : WellScoped t (.column c)
  | unary {op : UnaryOperator} {operand : Expression} (h : WellScoped t operand) :
      WellScoped t (.unary op operand)
  | operator {op : Operator} {left right : Expression} (hl : WellScoped t left)
      (hr : WellScoped t right) : WellScoped t (.operator op left right)
  | function {f : Function} {arguments : List Expression}
      (hcount : f.arity.accepts arguments.length = true)
      (h : ∀ e ∈ arguments, WellScoped t e) : WellScoped t (.function f arguments)
  | inList {operand : Expression} {items : List Expression} {negated exact : Bool}
      (h : WellScoped t operand) (hsome : items ≠ []) (hitems : ∀ e ∈ items, WellScoped t e) :
      WellScoped t (.inList operand items negated exact)
  | isNull {operand : Expression} {negated : Bool} (h : WellScoped t operand) :
      WellScoped t (.isNull operand negated)

/-! ## Failures -/

section Fails

variable {P : Error → Prop} {clock : Clock} {row : Row} {es : List Expression}
  (h : ∀ e ∈ es, Fails P (e.evaluate clock row))

include h

theorem fails_evaluateAll : Fails P (evaluateAll clock row es) := by
  induction es with
  | nil => exact fails_ok _
  | cons e es ih =>
    obtain ⟨he, hes⟩ := List.forall_mem_cons.mp h
    exact he.bind fun _ => (ih hes).bind fun _ => fails_ok _

theorem fails_evaluateFirst : Fails P (evaluateFirst clock row es) := by
  induction es with
  | nil => exact fails_ok _
  | cons e es ih =>
    obtain ⟨he, hes⟩ := List.forall_mem_cons.mp h
    refine he.bind fun v => ?_
    split
    · exact ih hes
    · exact fails_ok _

theorem fails_isAmong (v : Value) (exact : Bool) : Fails P (isAmong clock row v exact es) := by
  induction es with
  | nil => exact fails_ok _
  | cons e es ih =>
    obtain ⟨he, hes⟩ := List.forall_mem_cons.mp h
    refine he.bind fun w => ?_
    split
    · exact fails_ok _
    · exact ih hes

end Fails

theorem fails_evaluateChoice {clock : Clock} {row : Row} {es : List Expression}
    (h : ∀ e ∈ es, Fails Error.BlamesValues (e.evaluate clock row)) :
    Fails Error.BlamesValues (evaluateChoice clock row es) := by
  have hcondition (v : Value) : Fails Error.BlamesValues (condition v) := by
    unfold condition
    split
    · exact fails_ok _
    · exact fails_ok _
    · exact fails_error trivial
  unfold evaluateChoice
  split
  · next c a b =>
    refine (h c (by simp)).bind fun v => (hcondition v).bind fun holds => ?_
    split
    · exact h a (by simp)
    · exact h b (by simp)
  · exact fails_ok _

theorem WellScoped.fails_evaluate {t : Table} {e : Expression} (h : e.WellScoped t)
    (clock : Clock) (row : Row) : Fails Error.BlamesValues (e.evaluate clock row) := by
  induction h with
  | value => exact fails_ok _
  | column => exact fails_ok _
  | unary _ ih => exact ih.bind fun v => UnaryOperator.fails_apply _ v
  | @operator op left right _ _ ihl ihr =>
    rw [evaluate]
    split
    · refine ihl.bind fun v => (op.fails_truth v).bind fun p => ?_
      split
      · exact fails_ok _
      · exact ihr.bind fun w => (op.fails_truth w).bind fun _ => fails_ok _
    · exact ihl.bind fun v => ihr.bind fun w => op.fails_apply v w
  | @function f arguments hcount _ ih =>
    unfold evaluate
    rw [hcount, if_neg (by decide)]
    split
    · exact fails_evaluateChoice ih
    · exact fails_evaluateFirst ih
    · exact fails_evaluateFirst ih
    · exact (fails_evaluateAll ih).bind fun _ => Call.fails_value _ clock
  | inList _ _ _ ih ihs =>
    refine ih.bind fun v => ?_
    split
    · exact fails_ok _
    · exact (fails_isAmong ihs v _).bind fun _ => fails_ok _
  | isNull _ ih => exact ih.bind fun _ => fails_ok _

/-! ## Cells -/

theorem mapColumnsAll_eq_self {f : ColumnRef → ColumnRef} {es : List Expression}
    (h : ∀ e ∈ es, e.mapColumns f = e) : mapColumnsAll f es = es := by
  induction es with
  | nil => rfl
  | cons e es ih =>
    obtain ⟨he, hes⟩ := List.forall_mem_cons.mp h
    rw [mapColumnsAll, he, ih hes]

/-- An expression keeps its columns if the columns of the table are kept. -/
theorem WellScoped.mapColumns_eq_self {t : Table} {e : Expression} (h : e.WellScoped t)
    {f : ColumnRef → ColumnRef} (hf : ∀ c : ColumnRef, c.IsIn t → f c = c) :
    e.mapColumns f = e := by
  induction h with
  | value => rfl
  | column hc => rw [mapColumns, hf _ hc]
  | unary _ ih => rw [mapColumns, ih]
  | operator _ _ ihl ihr => rw [mapColumns, ihl, ihr]
  | function _ _ ih => rw [mapColumns, mapColumnsAll_eq_self ih]
  | inList _ _ _ ih ihs => rw [mapColumns, ih, mapColumnsAll_eq_self ihs]
  | isNull _ ih => rw [mapColumns, ih]

/-- What comes behind the cells of a row is not looked at. -/
theorem WellScoped.evaluate_append {t : Table} {e : Expression} (h : e.WellScoped t) (clock : Clock)
    {row : Row} (hwidth : row.cells.length = t.columns.length) (more : List Value) :
    e.evaluate clock ⟨row.index, row.cells ++ more⟩ = e.evaluate clock row := by
  -- columns that the table does not have are moved behind all cells
  let f (c : ColumnRef) : ColumnRef :=
    if c.index < t.columns.length then c else ⟨c.name, (row.cells ++ more).length⟩
  have hself : e.mapColumns f = e := h.mapColumns_eq_self fun c hc => if_pos hc.lt
  have hmoves : row.Moves f ⟨row.index, row.cells ++ more⟩ := by
    intro c
    rw [Row.cell, Row.cell, List.getD_eq_getElem?_getD, List.getD_eq_getElem?_getD]
    by_cases hc : c.index < t.columns.length
    · have hlt : c.index < row.cells.length := by omega
      rw [show f c = c from if_pos hc, List.getElem?_append_left hlt]
    · have hle : row.cells.length ≤ c.index := by omega
      rw [show f c = ⟨c.name, (row.cells ++ more).length⟩ from if_neg hc,
        List.getElem?_eq_none hle, List.getElem?_eq_none (Nat.le_refl _)]
  have hvalue : (e.mapColumns f).evaluate clock ⟨row.index, row.cells ++ more⟩ =
      e.evaluate clock row := evaluate_mapColumns hmoves e
  rwa [hself] at hvalue

end Expression

end RowFilter
