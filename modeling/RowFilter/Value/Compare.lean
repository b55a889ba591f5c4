import RowFilter.Value.Convert

/-!
Comparison of values. Ordinary comparison promotes numbers, reads a text as the type of the other
value, and passes over the case of letters. Exact comparison does none of this: values of
different types are incomparable, and so is a NaN in either comparison.
-/

namespace RowFilter.Value

/-- The operation that comparison faults are reported under. -/
def comparison : String := "comparison"

/-- The order of two values of one type. -/
def compareSame (exact : Bool) : Value → Value → Option Ordering
  | boolean a, boolean b => some (Ord.compare a.toNat b.toNat)
  | integer _ a, integer _ b => some (Ord.compare a.toInt b.toInt)
  | decimal a, decimal b => some (a.compare b)
  | double a, double b => Double.compare? a b
  | string a, string b =>
    some (if exact then Text.compareChars a.toList b.toList
      else Text.compareFolded a.toList b.toList)
  | guid a, guid b => some (a.compare b)
  | dateTime a, dateTime b => some (a.compare b)
  | _, _ => none

/-- The type two values are converted to before they are compared. -/
def commonType? (a b : ValueType) : Option ValueType :=
  if a = b then some a
  else match a.promote? b with
    | some t => some t
    | none => if a = .string then some b else if b = .string then some a else none

/-- The order of two values, none if they are incomparable. Undefined values have no order, nor
have values without a common type, nor a text that does not read as the other value's type. -/
def compare (a b : Value) (exact : Bool) : Except Error (Option Ordering) :=
  if exact ∧ a.valueType ≠ b.valueType then .ok none
  else
    match (commonType? a.valueType b.valueType).filter (· ≠ .undefined) with
    | none => .error (.evaluation comparison (.incomparable a.valueType b.valueType))
    | some t => do
      let x ← a.convert t
      let y ← b.convert t
      return compareSame exact x y

/-- Two values that can be compared are equal. -/
def matches? (a b : Value) (exact : Bool) : Bool :=
  match a.compare b exact with
  | .ok (some .eq) => true
  | _ => false

end RowFilter.Value
