import RowFilter.Error
import RowFilter.Expression.Basic
import RowFilter.Table.DataSet

/-!
The tables that an expression may refer to, and the one that it refers to without naming it.
-/

namespace RowFilter

inductive Scope where
  | dataSet (d : DataSet)
  /-- A single table, which is also the primary one. -/
  | table (t : Table)

namespace Scope

/-- The table that goes by a name. -/
def table? : Scope → String → Option Table
  | dataSet d, name => d.table? name
  | table t, name => if Text.sameName t.name name then some t else none

/-- The table of expressions that name none: the one with the given name, or else the only one. -/
def primaryTable? : Scope → Option String → Option Table
  | table t, _ => some t
  | dataSet d, some name => d.table? name
  | dataSet ⟨[only]⟩, none => some only
  | dataSet _, none => none

def primaryTable (scope : Scope) (name : Option String) : Except Error Table :=
  match scope.primaryTable? name, name with
  | some t, _ => .ok t
  | none, some name => .error (.bind (.noPrimaryTable name))
  | none, none => .error (.bind .primaryTableUndefined)

/-- The table that a FILTER clause names. -/
def filterTable (scope : Scope) (name : String) : Except Error Table :=
  match scope.table? name with
  | some t => .ok t
  | none => .error (.bind (.noTable name))

end Scope

/-- The column of a table that goes by a name, with its name as the table has it. -/
def Table.resolve (t : Table) (name : String) : Except Error ColumnRef :=
  match t.column? name with
  | some (index, column) => .ok ⟨column.name, index⟩
  | none => .error (.bind (.noColumn name t.name))

end RowFilter
