import RowFilter.Text.Key

/-!
Options of a session: what is tracked, which table bare expressions refer to, and which columns
identify the rows of a table. Tables are named without regard to case.
-/

namespace RowFilter

/-- The columns of a table that identify its rows. -/
structure IdFields where
  signalId : String
  measurementKey : String
  pointTag : String
deriving DecidableEq, Repr

namespace IdFields

/-- The columns that identify rows where nothing else is said. -/
def standard : IdFields := ⟨"SignalID", "ID", "PointTag"⟩

end IdFields

structure Options where
  /-- Errors in expressions are reported quietly. -/
  quiet : Bool
  trackSignalIds : Bool
  trackRows : Bool
  primaryTable : Option String
  /-- What is said of single tables, by name. -/
  idFields : List (String × IdFields)
deriving DecidableEq, Repr

namespace Options

/-- Rows are tracked, signal IDs are not. -/
def standard : Options := ⟨false, false, true, none, []⟩

/-- The columns that identify the rows of a table. -/
def idFieldsOf (o : Options) (table : String) : IdFields :=
  match o.idFields.find? fun entry => Text.sameName entry.1 table with
  | some (_, fields) => fields
  | none => .standard

/-- Says which columns identify the rows of a table, in place of what was said of it before. -/
def setIdFields (o : Options) (table : String) (fields : IdFields) : Options :=
  let others := o.idFields.filter fun entry => !Text.sameName entry.1 table
  { o with idFields := (table, fields) :: others }

end Options

end RowFilter
