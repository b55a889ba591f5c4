import RowFilter.Evaluation.Call
import RowFilter.Value.Compare

/-!
Functions of numbers: magnitude, rounding, roots and powers, and the extreme of several values.
-/

namespace RowFilter.Call

/-- The magnitude, of the argument's own type. -/
def magnitude (c : Call) : Except Error Value :=
  match c.argument 0 with
  | .undefined => .ok .undefined
  | .integer t n => .ok (.integer t (.wrap t n.toInt.natAbs))
  | .decimal d => .ok (.decimal d.abs)
  | .double x => .ok (.double x.abs)
  | _ => .error (c.mismatch 0 "numeric")

/-- The number made whole, of the argument's own type. -/
def rounded (c : Call) (mode : Decimal.Rounding) (float : Float → Float) : Except Error Value :=
  match c.argument 0 with
  | .undefined => .ok .undefined
  | .integer t n => .ok (.integer t n)
  | .decimal d => .ok (.decimal (d.round mode))
  | .double x => .ok (.double (float x))
  | _ => .error (c.mismatch 0 "numeric")

def squareRoot (c : Call) : Except Error Value := do
  match ← c.double? 0 with
  | some x => return .double x.sqrt
  | none => return .undefined

def power (c : Call) : Except Error Value := do
  match ← c.double? 0, ← c.double? 1 with
  | some x, some y => return .double (x.pow y)
  | _, _ => return .undefined

/-- The value if it is on the wanted side of the current one, else the current one. -/
def prefer (wanted : Ordering) (current value : Value) : Except Error Value := do
  if (← value.compare current false) == some wanted then return value else return current

/-- The first of the defined values that no other one exceeds on the wanted side. -/
def extreme (wanted : Ordering) (values : List Value) : Except Error Value :=
  match values.filter (!·.isUndefined) with
  | [] => .ok .undefined
  | v :: rest => rest.foldlM (prefer wanted) v

end RowFilter.Call
