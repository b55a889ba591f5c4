import RowFilter.Binding.Scope
import RowFilter.Log
import RowFilter.Options
import RowFilter.Syntax.Tree
import RowFilter.Value.Compare

/-!
Identifier statements: a GUID, a measurement key or a point tag that names a row of the primary
table through the column that holds such identifiers.
-/

namespace RowFilter

/-- A row of a table, by the table's name. -/
structure Found where
  table : String
  row : Row
deriving DecidableEq

/-- What an identifier statement or a selected row stands for: a signal ID, a row, or both. -/
structure Match where
  signalId : Option Guid
  found : Option Found
deriving DecidableEq

/-- The signal ID that a cell holds, as a GUID or as the text of one. -/
def Value.signalId? : Value → Option Guid
  | guid g => some g
  | string s => Guid.read? s.toList
  | _ => none

namespace Syntax.Identifier

/-- The position of an identifying column. -/
def fieldColumn (t : Table) (field : String) : Except Error Nat :=
  match t.column? field with
  | some (index, _) => .ok index
  | none => .error (.configuration (.noField field t.name))

/-- Where to look and for what. -/
structure Target where
  column : Nat
  value : Value
  /-- The signal ID that the identifier states itself. -/
  signalId : Option Guid

/-- What an identifier asks for, given the column of signal IDs. -/
def target (i : Identifier) (t : Table) (fields : IdFields) (signalIds : Nat) :
    Except Error Target :=
  match i.kind with
  | .guid =>
    match Guid.read? i.text.toList with
    | some g => .ok ⟨signalIds, .guid g, some g⟩
    | none => .error (.bind (.badLiteral i.text "GUID"))
  | .measurementKey => do
    return ⟨← fieldColumn t fields.measurementKey, .string i.text, none⟩
  | .pointTag => do
    return ⟨← fieldColumn t fields.pointTag, .string i.text, none⟩

/-- The first row whose cell equals the target. -/
def Target.row? (target : Target) (t : Table) : Option Row :=
  t.rowList.find? fun row => (row.cell target.column).matches? target.value false

/-- The match of an identifier in the primary table, and the row it was found in. The row's own
signal ID comes before the one that the identifier states. -/
def resolve (i : Identifier) (t : Table) (fields : IdFields) :
    Except Error (Match × Bool) := do
  let signalIds ← fieldColumn t fields.signalId
  let target ← i.target t fields signalIds
  match target.row? t with
  | some row =>
    return (⟨(row.cell signalIds).signalId?.or target.signalId, some ⟨t.name, row⟩⟩, true)
  | none => return (⟨target.signalId, none⟩, false)

end Syntax.Identifier

namespace Match

/-- Names a row or a signal ID. -/
def isKnown (m : Match) : Bool :=
  m.found.isSome || m.signalId.isSome

end Match

end RowFilter
