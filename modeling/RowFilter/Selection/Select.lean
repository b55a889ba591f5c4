import RowFilter.Log
import RowFilter.Selection.Order
import RowFilter.Selection.Sort

/-!
Selection of the rows of a table on which a tree is true. Rows on which it is false, undefined or
no Boolean are left out, and so are those that cannot be evaluated, which are reported.
-/

namespace RowFilter

namespace ExpressionTree

/-- Goes through rows, as long as fewer than `wanted` have matched, and collects those on which the
tree is true. -/
def scan (t : ExpressionTree) (clock : Clock) (table : String) :
    (wanted : Option Nat) → List Row → List Row × Log
  | some 0, _ => ([], [])
  | _, [] => ([], [])
  | wanted, row :: rest =>
    match t.evaluate clock row with
    | .ok (.boolean true) =>
      let (rows, log) := scan t clock table (wanted.map (· - 1)) rest
      (row :: rows, log)
    | .ok _ => scan t clock table wanted rest
    | .error e =>
      let (rows, log) := scan t clock table wanted rest
      (rows, .rowExcluded table row.index e :: log)

/-- At most so many elements. -/
def upTo (limit : Option Nat) (rows : List Row) : List Row :=
  match limit with
  | some n => rows.take n
  | none => rows

/-- The rows selected from a table that the tree is bound to. Only if no order is asked for, the
scan may end with the last row that is wanted. -/
def rowsOf (t : ExpressionTree) (clock : Clock) (table : Table) : List Row × Log :=
  if t.limit? = some 0 then ([], [])
  else if t.orderBy.isEmpty then t.scan clock table.name t.limit? table.rowList
  else
    let (rows, log) := t.scan clock table.name none table.rowList
    (upTo t.limit? (stableSort (fun a b => compareRows t.orderBy a b == .lt) rows), log)

/-- The rows selected from a table, which has to be the one that the tree is bound to. -/
def select (t : ExpressionTree) (clock : Clock) (table : Table) :
    Logged (List Row) :=
  if Text.sameName table.name t.table then
    let (rows, log) := t.rowsOf clock table
    (.ok rows, log)
  else (.error (.use (.boundElsewhere t.table table.name)), [])

end ExpressionTree

end RowFilter
