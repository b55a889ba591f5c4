import RowFilter.Expression.Operator
import RowFilter.Number.Word.Operations
import RowFilter.Value.Convert

/-!
Arithmetic on values. Both operands are converted to their common type; integers wrap around in
that type, decimals are exact up to the digits of a quotient, doubles follow the floating-point
standard. A text turns addition into joining of texts.
-/

namespace RowFilter

namespace Operator

/-- The type in which two operands are combined; two Booleans are combined as Int32. -/
def commonType (op : Operator) (a b : ValueType) : Except Error ValueType :=
  match a.promote? b with
  | some .boolean => .ok .int32
  | some t => .ok t
  | none => .error (.evaluation op.text (.cannotCombine a b))

def zeroDivision (op : Operator) : Error :=
  .evaluation op.text .divisionByZero

def integerArithmetic (op : Operator) (t : IntType) (m n : Int) : Except Error Value :=
  match op with
  | add => .ok (.integer t (.add t m n))
  | subtract => .ok (.integer t (.sub t m n))
  | multiply => .ok (.integer t (.mul t m n))
  | divide => if n = 0 then .error op.zeroDivision else .ok (.integer t (.quotient t m n))
  | _ => if n = 0 then .error op.zeroDivision else .ok (.integer t (.remainder t m n))

def decimalArithmetic (op : Operator) (m n : Decimal) : Except Error Value :=
  match op with
  | add => .ok (.decimal (m.add n))
  | subtract => .ok (.decimal (m.sub n))
  | multiply => .ok (.decimal (m.mul n))
  | divide => if n.isZero then .error op.zeroDivision else .ok (.decimal (m.div n))
  | _ => if n.isZero then .error op.zeroDivision else .ok (.decimal (m.rem n))

def doubleArithmetic (op : Operator) (x y : Float) : Value :=
  match op with
  | add => .double (x + y)
  | subtract => .double (x - y)
  | multiply => .double (x * y)
  | divide => .double (x / y)
  | _ => .double (Double.remainder x y)

/-- An arithmetic operator on two values of one type. -/
def arithmeticSame (op : Operator) : Value → Value → Except Error Value
  | .integer t m, .integer _ n => op.integerArithmetic t m.toInt n.toInt
  | .decimal m, .decimal n => op.decimalArithmetic m n
  | .double x, .double y => .ok (op.doubleArithmetic x y)
  | a, b => .error (.evaluation op.text (.cannotCombine a.valueType b.valueType))

/-- An arithmetic operator on two values that are not undefined. -/
def arithmetic (op : Operator) (a b : Value) : Except Error Value :=
  if op = add ∧ (a.valueType = .string ∨ b.valueType = .string) then
    .ok (.string (a.text ++ b.text))
  else do
    let t ← op.commonType a.valueType b.valueType
    op.arithmeticSame (← a.convert t) (← b.convert t)

end Operator

namespace UnaryOperator

/-- Minus on a number: an unsigned operand goes to the next signed type. -/
def negate : Value → Option Value
  | .boolean b => some (.int32 (if b then -1 else 0))
  | .integer .int32 n => some (.integer .int32 (.wrap _ (-n.toInt)))
  | .integer .int64 n => some (.integer .int64 (.wrap _ (-n.toInt)))
  | .integer .uint32 n => some (.integer .int64 (.wrap _ (-n.toInt)))
  | .integer .uint64 n => some (.decimal (.ofInt (-n.toInt)))
  | .decimal d => some (.decimal d.neg)
  | .double x => some (.double (-x))
  | _ => none

/-- The operator on a value that it applies to. -/
def result? : UnaryOperator → Value → Option Value
  | _, .undefined => some .undefined
  | not, .boolean b => some (.boolean !b)
  | bitwiseNot, .boolean b => some (.boolean !b)
  | bitwiseNot, .integer t n => some (.integer t (.complement t n.toInt))
  | plus, .boolean b => some (.int32 (if b then 1 else 0))
  | plus, v => if v.valueType.isNumeric then some v else none
  | minus, v => negate v
  | _, _ => none

def apply (op : UnaryOperator) (v : Value) : Except Error Value :=
  match op.result? v with
  | some w => .ok w
  | none => .error (.evaluation op.name (.notApplicable v.valueType))

end UnaryOperator

end RowFilter
