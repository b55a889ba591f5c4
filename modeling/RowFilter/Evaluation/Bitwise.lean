import RowFilter.Evaluation.Arithmetic

/-!
Operators on bits. The operands of `&`, `|` and `^` are integers of a common integer type, or two
Booleans; a shift keeps the type of what is shifted, whatever the type of the amount.
-/

namespace RowFilter

/-- Has bits: a Boolean or an integer. -/
def ValueType.isIntegral : ValueType → Bool
  | boolean | integer _ => true
  | _ => false

namespace Operator

def bitwiseBooleans? (op : Operator) (a b : Bool) : Option Bool :=
  match op with
  | bitwiseAnd => some (a && b)
  | bitwiseOr => some (a || b)
  | bitwiseXor => some (a ^^ b)
  | _ => none

def isShift : Operator → Bool
  | shiftLeft | shiftRight => true
  | _ => false

/-- How far to shift: a natural number of 32 bits. -/
def shiftAmount (op : Operator) (v : Value) : Except Error Nat := do
  match ← v.convert .int64 with
  | .integer _ n =>
    if 0 ≤ n.toInt ∧ n.toInt < twoTo 32 then return n.toInt.toNat
    else throw (.evaluation op.text .shiftOutOfRange)
  | _ => throw (.evaluation op.text .shiftOutOfRange)

def shiftInteger (op : Operator) (t : IntType) (n : Int) (amount : Nat) : Value :=
  match op with
  | shiftLeft => .integer t (.shiftLeft t n amount)
  | _ => .integer t (.shiftRight t n amount)

/-- A shift of a Boolean or an integer. -/
def shift (op : Operator) (a b : Value) : Except Error Value := do
  let amount ← op.shiftAmount b
  match a with
  | .boolean x => return op.shiftInteger .int32 (if x then 1 else 0) amount
  | .integer t n => return op.shiftInteger t n.toInt amount
  | v => throw (.evaluation op.text (.notIntegral v.valueType b.valueType))

def bitwiseIntegers (op : Operator) (t : IntType) (m n : Int) : Value :=
  match op with
  | bitwiseAnd => .integer t (.and t m n)
  | bitwiseOr => .integer t (.or t m n)
  | _ => .integer t (.xor t m n)

/-- A bitwise operator on integers of their common type, if that is an integer type. -/
def combineBits (op : Operator) (a b : Value) : Except Error Value := do
  let t ← op.commonType a.valueType b.valueType
  match ← a.convert t, ← b.convert t with
  | .integer t m, .integer _ n => return op.bitwiseIntegers t m.toInt n.toInt
  | _, _ => throw (.evaluation op.text (.cannotCombine a.valueType b.valueType))

/-- A bitwise operator on two values that are not undefined. -/
def bitwise (op : Operator) (a b : Value) : Except Error Value :=
  let onBooleans? : Option Bool :=
    match a, b with
    | .boolean x, .boolean y => op.bitwiseBooleans? x y
    | _, _ => none
  match onBooleans? with
  | some c => .ok (.boolean c)
  | none =>
    if !a.valueType.isIntegral || !b.valueType.isIntegral then
      .error (.evaluation op.text (.notIntegral a.valueType b.valueType))
    else if op.isShift then op.shift a b
    else op.combineBits a b

end Operator

end RowFilter
