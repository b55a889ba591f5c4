import Mathlib
import RowFilter.Table.DataSet

/-!
Tables and data sets as they are kept in memory. Beside the columns of a table and the tables of a
data set stands a map from keys of names to positions, which lookups go through. Rows and cells are
changed in place; an action that fails may leave what it has changed.
-/

namespace RowFilter

/-- The positions that keys of names stand for. -/
abbrev Positions := Std.HashMap (List Char) Nat

/-- A step that changes a state in place. -/
abbrev Action (σ α : Type) := ExceptT Error (StateM σ) α

namespace Action

variable {σ α β : Type}

/-- The result, and the state that is left, also by an action that fails. -/
def run (x : Action σ α) (s : σ) : Except Error α × σ :=
  (ExceptT.run x).run s

theorem run_bind (x : Action σ α) (f : α → Action σ β) (s : σ) :
    run (x >>= f) s =
      match run x s with
      | (.ok a, s') => run (f a) s'
      | (.error e, s') => (.error e, s') := by
  show (ExceptT.bindCont f ((ExceptT.run x).run s).1).run ((ExceptT.run x).run s).2 = _
  rw [run]
  rcases (ExceptT.run x).run s with ⟨e | a, s'⟩
  · rfl
  · rfl

@[simp] theorem run_pure (a : α) (s : σ) : run (pure a : Action σ α) s = (.ok a, s) := rfl

@[simp] theorem run_throw (e : Error) (s : σ) :
    run (throw e : Action σ α) s = (.error e, s) := rfl

@[simp] theorem run_get (s : σ) : run (get : Action σ σ) s = (.ok s, s) := rfl

@[simp] theorem run_set (s s' : σ) : run (set s' : Action σ PUnit) s = (.ok ⟨⟩, s') := rfl

@[simp] theorem run_modify (f : σ → σ) (s : σ) :
    run (modify f : Action σ PUnit) s = (.ok ⟨⟩, f s) := rfl

@[simp] theorem run_map (f : α → β) (x : Action σ α) (s : σ) :
    run (f <$> x) s = ((run x s).1.map f, (run x s).2) := by
  rw [← bind_pure_comp, run_bind]
  rcases run x s with ⟨e | a, s'⟩ <;> rfl

theorem run_lift (x : Except Error α) (s : σ) : run (liftExcept x : Action σ α) s = (x, s) := by
  cases x <;> rfl

end Action

/-! ## Tables -/

structure IndexedColumn extends Column where
  index : Nat

structure IndexedTable where
  name : String
  columns : List IndexedColumn
  ids : Positions
  rows : List (List Value)

namespace IndexedTable

/-- Puts a column behind the others. -/
def push (t : IndexedTable) (c : Column) : IndexedTable :=
  { t with
    columns := t.columns ++ [{ c with index := t.columns.length }]
    ids := t.ids.insert (Text.key c.name) t.columns.length }

/-- A table without rows. The columns are defined one after the other before they are numbered. -/
def build (name : String) (columns : List Column) : IndexedTable :=
  (columns.foldl Table.defineColumn []).foldl push { name, columns := [], ids := ∅, rows := [] }

def column? (t : IndexedTable) (name : String) : Option IndexedColumn :=
  t.ids[Text.key name]?.bind (t.columns[·]?)

/-- Appends a row and tells its position. -/
def addRow (values : List Value) : Action IndexedTable Nat := do
  let t ← get
  if t.columns.length < values.length then
    throw (.use (.rowTooLong values.length t.name t.columns.length))
  liftExcept (Table.checkCells (t.columns.map (·.toColumn)) values)
  modify fun t => { t with rows := t.rows ++ [Table.padTo t.columns.length values] }
  return (← get).rows.length - 1

def setCell (row : Nat) (column : String) (v : Value) : Action IndexedTable Unit := do
  let t ← get
  let some c := t.column? column | throw (.use (.noColumn column t.name))
  liftExcept (Table.checkCell c.toColumn v)
  let some cells := t.rows[row]? | throw (.use (.noRow row t.name))
  set { t with rows := t.rows.set row (cells.set c.index v) }

end IndexedTable

/-- A change to the rows of a table. -/
inductive RowChange where
  | add (values : List Value)
  | set (row : Nat) (column : String) (v : Value)

namespace RowChange

def act : RowChange → Action IndexedTable Unit
  | add values => (fun _ => ()) <$> IndexedTable.addRow values
  | set row column v => IndexedTable.setCell row column v

/-- What the change makes of a table. -/
def change? (t : Table) : RowChange → Except Error Table
  | add values => t.addRow values
  | set row column v => t.setCell row column v

/-- A table after a change; one that fails changes nothing. -/
def apply (c : RowChange) (t : Table) : Table :=
  match c.change? t with
  | .ok w => w
  | .error _ => t

end RowChange

/-- How a table comes about: its columns are defined, then its rows are changed. -/
structure TableHistory where
  name : String
  columns : List Column
  changes : List RowChange

namespace TableHistory

def indexed (h : TableHistory) : IndexedTable :=
  h.changes.foldl (fun t c => (c.act.run t).2) (.build h.name h.columns)

def table (h : TableHistory) : Table :=
  h.changes.foldl (fun t c => c.apply t) (.build h.name h.columns)

end TableHistory

/-! ## Data sets -/

structure IndexedDataSet where
  tables : List IndexedTable
  ids : Positions

namespace IndexedDataSet

def empty : IndexedDataSet := ⟨[], ∅⟩

/-- Puts a table in the place of the one with the same name, or at the end. -/
def addTable (d : IndexedDataSet) (t : IndexedTable) : IndexedDataSet :=
  match d.ids[Text.key t.name]? with
  | some id => { d with tables := d.tables.set id t }
  | none =>
    { tables := d.tables ++ [t], ids := d.ids.insert (Text.key t.name) d.tables.length }

def table? (d : IndexedDataSet) (name : String) : Option IndexedTable :=
  d.ids[Text.key name]?.bind (d.tables[·]?)

/-- Changes rows of the table that goes by a name, in place. -/
def change (d : IndexedDataSet) (name : String) (c : RowChange) : IndexedDataSet :=
  match d.ids[Text.key name]? with
  | some id => { d with tables := d.tables.modify id fun t => (c.act.run t).2 }
  | none => d

end IndexedDataSet

/-- What happens to a data set: a table comes in, or a table that is there is changed. -/
inductive DataSet.Event where
  | add (h : TableHistory)
  | change (name : String) (c : RowChange)

def IndexedDataSet.next (d : IndexedDataSet) : DataSet.Event → IndexedDataSet
  | .add h => d.addTable h.indexed
  | .change name c => d.change name c

def IndexedDataSet.ofHistory (events : List DataSet.Event) : IndexedDataSet :=
  events.foldl next empty

def DataSet.next (d : DataSet) : DataSet.Event → DataSet
  | .add h => d.addTable h.table
  | .change name c => d.update name c.apply

def DataSet.ofHistory (events : List DataSet.Event) : DataSet :=
  events.foldl next empty

end RowFilter
