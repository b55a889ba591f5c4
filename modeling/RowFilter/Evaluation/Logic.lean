import RowFilter.Error
import RowFilter.Expression.Operator
import RowFilter.Value.Basic

/-!
Logic with three truth values, the third one being that of an undefined operand. A conjunction is
false as soon as one side is, a disjunction true as soon as one side is; the right side is not
looked at when the left side settles the result.
-/

namespace RowFilter

/-- A truth value, none if it is not known. -/
abbrev Truth := Option Bool

namespace Truth

def toValue : Truth → Value
  | some b => .boolean b
  | none => .undefined

def and : Truth → Truth → Truth
  | some false, _ | _, some false => some false
  | some true, some true => some true
  | _, _ => none

def or : Truth → Truth → Truth
  | some true, _ | _, some true => some true
  | some false, some false => some false
  | _, _ => none

end Truth

namespace Operator

/-- The truth of an operand of a logical operator. -/
def truth (op : Operator) : Value → Except Error Truth
  | .boolean b => .ok (some b)
  | .undefined => .ok none
  | v => .error (.evaluation op.text (.notBoolean v.valueType))

/-- The left operand settles the result alone. -/
def isSettledBy (op : Operator) (left : Truth) : Bool :=
  match op with
  | and => left == some false
  | or => left == some true
  | _ => false

/-- The result of a logical operator. -/
def connect (op : Operator) (left right : Truth) : Truth :=
  match op with
  | and => left.and right
  | or => left.or right
  | _ => none

end Operator

end RowFilter
