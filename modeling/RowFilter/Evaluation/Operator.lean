import RowFilter.Evaluation.Bitwise
import RowFilter.Text.Like
import RowFilter.Value.Compare

/-!
Operators that look at both operands. An undefined operand makes the result undefined.
-/

namespace RowFilter.Operator

/-- Whether a comparison holds, given the order of its operands. Operands without an order differ
and are neither less nor greater. -/
def holds (op : Operator) (order : Option Ordering) : Bool :=
  match op with
  | less => order == some .lt
  | lessOrEqual => order == some .lt || order == some .eq
  | greater => order == some .gt
  | greaterOrEqual => order == some .gt || order == some .eq
  | equal | equalExact => order == some .eq
  | _ => order != some .eq

/-- Compares or matches by exact text and type. -/
def isExact : Operator → Bool
  | equalExact | notEqualExact | likeExact | notLikeExact => true
  | _ => false

def comparison (op : Operator) (a b : Value) : Except Error Value := do
  return .boolean (op.holds (← a.compare b op.isExact))

/-- The opposite of LIKE. -/
def isNegatedLike : Operator → Bool
  | notLike | notLikeExact => true
  | _ => false

def likeness (op : Operator) : Value → Value → Except Error Value
  | .string s, .string p =>
    .ok (.boolean (Text.like s.toList p.toList op.isExact != op.isNegatedLike))
  | a, b => .error (.evaluation op.text (.notStrings a.valueType b.valueType))

/-- An operator that is not logical, on two values. -/
def apply (op : Operator) (a b : Value) : Except Error Value :=
  if a.isUndefined || b.isUndefined then .ok .undefined
  else if op.isComparison then op.comparison a b
  else if op.isLike then op.likeness a b
  else if op.isBitwise then op.bitwise a b
  else op.arithmetic a b

end RowFilter.Operator
