import RowFilter.Selection.Tree
import RowFilter.Value.Compare

/-!
The order of rows. Undefined cells come first, then a NaN, then all other values by comparison;
values that cannot be compared are ordered by their types.
-/

namespace RowFilter

namespace Value

/-- The group that a value is sorted into. -/
def sortGroup : Value → Nat
  | undefined => 0
  | double x => if Double.isNaN x then 1 else 2
  | _ => 2

/-- The order of values of the last group. -/
def compareOrdinary (exact : Bool) (a b : Value) : Ordering :=
  match a.compare b exact with
  | .ok (some order) => order
  | _ => Ord.compare a.valueType.position b.valueType.position

/-- The order of two cells. -/
def compareKeys (exact : Bool) (a b : Value) : Ordering :=
  match Ord.compare a.sortGroup b.sortGroup with
  | .eq => if a.sortGroup = 2 then compareOrdinary exact a b else .eq
  | order => order

end Value

namespace OrderTerm

/-- The order of two rows by one column. -/
def compare (term : OrderTerm) (a b : Row) : Ordering :=
  let order := Value.compareKeys term.exact (a.cell term.column.index) (b.cell term.column.index)
  if term.ascending then order else order.swap

end OrderTerm

/-- The order of two rows by the first term that tells them apart. -/
def compareRows : List OrderTerm → Row → Row → Ordering
  | [], _, _ => .eq
  | term :: terms, a, b => (term.compare a b).then (compareRows terms a b)

end RowFilter
