import RowFilter.Error
import RowFilter.Text.Key
import RowFilter.Value.Basic

/-!
Tables: named and typed columns, and rows of cells. Names are looked up without regard to case.
A row that is added has as many cells as there are columns, each undefined or of its column's
type; a change that is refused leaves the table as it was.
-/

namespace RowFilter

structure Column where
  name : String
  type : ValueType
deriving DecidableEq, Repr

structure Table where
  name : String
  columns : List Column
  rows : List (List Value)
deriving DecidableEq

/-- A row of a table: its position in storage order and its cells. -/
structure Row where
  index : Nat
  cells : List Value
deriving DecidableEq, Inhabited

namespace Row

/-- The cell of a column; a cell that is missing is undefined. -/
def cell (r : Row) (column : Nat) : Value :=
  r.cells.getD column .undefined

end Row

namespace Table

/-! ## Columns -/

/-- Adds a column, or changes the type of the column with the same name. -/
def defineColumn (columns : List Column) (c : Column) : List Column :=
  match columns with
  | [] => [c]
  | d :: rest =>
    if Text.sameName d.name c.name then { d with type := c.type } :: rest
    else d :: defineColumn rest c

/-- A table without rows whose columns are defined one after the other. -/
def build (name : String) (columns : List Column) : Table :=
  { name, columns := columns.foldl defineColumn [], rows := [] }

/-- The first column, counting from `index`, that goes by a name. -/
def findColumn? (name : String) (index : Nat) : List Column → Option (Nat × Column)
  | [] => none
  | c :: rest =>
    if Text.sameName c.name name then some (index, c) else findColumn? name (index + 1) rest

/-- The position and the definition of the column that goes by a name. -/
def column? (t : Table) (name : String) : Option (Nat × Column) :=
  findColumn? name 0 t.columns

/-! ## Rows -/

/-- The rows in storage order, each with its position. -/
def rowList (t : Table) : List Row :=
  t.rows.zipIdx.map fun (cells, index) => ⟨index, cells⟩

def row? (t : Table) (index : Nat) : Option Row :=
  t.rows[index]?.map (⟨index, ·⟩)

/-- A value that is undefined or of the column's type. -/
def admits (c : Column) (v : Value) : Bool :=
  v.isUndefined || v.valueType = c.type

def checkCell (c : Column) (v : Value) : Except Error Unit :=
  if admits c v then .ok () else .error (.use (.typeMismatch c.name c.type v.valueType))

/-- Checks the cells of a row against the columns; the first mismatch is reported. -/
def checkCells : List Column → List Value → Except Error Unit
  | c :: columns, v :: values => do
    checkCell c v
    checkCells columns values
  | _, _ => .ok ()

/-- Cells up to a count, missing ones being undefined. -/
def padTo (count : Nat) (values : List Value) : List Value :=
  values ++ List.replicate (count - values.length) .undefined

/-- Appends a row. Cells missing at its end are undefined. -/
def addRow (t : Table) (values : List Value) : Except Error Table :=
  if t.columns.length < values.length then
    .error (.use (.rowTooLong values.length t.name t.columns.length))
  else do
    checkCells t.columns values
    return { t with rows := t.rows ++ [padTo t.columns.length values] }

/-- Replaces one cell. -/
def setCell (t : Table) (row : Nat) (column : String) (v : Value) : Except Error Table :=
  match t.column? column with
  | none => .error (.use (.noColumn column t.name))
  | some (index, c) => do
    checkCell c v
    match t.rows[row]? with
    | none => .error (.use (.noRow row t.name))
    | some cells => return { t with rows := t.rows.set row (cells.set index v) }

/-- The cell of a row in the column that goes by a name. -/
def cellByName? (t : Table) (r : Row) (name : String) : Option Value :=
  (t.column? name).map fun (index, _) => r.cell index

end Table

/-- A reference to a row of one table among others. Rows are the same if they are the same row of
the same table; equal cells do not make them so. -/
structure RowRef where
  table : Nat
  index : Nat
deriving DecidableEq, Repr

end RowFilter
