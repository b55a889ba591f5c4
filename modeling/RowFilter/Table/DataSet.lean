import RowFilter.Table.Basic

/-!
Data sets: tables in the order in which their names first came in, one for each name up to case.
-/

namespace RowFilter

structure DataSet where
  tables : List Table
deriving DecidableEq

namespace DataSet

def empty : DataSet := ⟨[]⟩

/-- Puts a table in the place of the one with the same name, or at the end. -/
def put (t : Table) : List Table → List Table
  | [] => [t]
  | u :: rest => if Text.sameName u.name t.name then t :: rest else u :: put t rest

def addTable (d : DataSet) (t : Table) : DataSet :=
  ⟨put t d.tables⟩

/-- The table that goes by a name. -/
def table? (d : DataSet) (name : String) : Option Table :=
  d.tables.find? (Text.sameName ·.name name)

/-- Changes the table that goes by a name; nothing changes if there is none. -/
def update (d : DataSet) (name : String) (f : Table → Table) : DataSet :=
  ⟨change d.tables⟩
where
  change : List Table → List Table
    | [] => []
    | u :: rest => if Text.sameName u.name name then f u :: rest else u :: change rest

end DataSet

end RowFilter
