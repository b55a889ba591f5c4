import RowFilter.Number.Decimal.Text
import RowFilter.Table.DataSet

/-!
Data sets that are stored as text and loaded again. Every value comes back as it was, but decimals
come back as what is read from their text.
-/

namespace RowFilter

def Value.readBack : Value → Value
  | .decimal d => .decimal d.readBack
  | v => v

def Table.readBack (t : Table) : Table :=
  { t with rows := t.rows.map (·.map Value.readBack) }

def DataSet.readBack (d : DataSet) : DataSet :=
  ⟨d.tables.map Table.readBack⟩

end RowFilter
