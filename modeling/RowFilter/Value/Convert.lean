import RowFilter.Error
import RowFilter.Number.Integer
import RowFilter.Value.Basic

/-!
Conversion of a value to a type. Numbers are checked against the range of the type and lose at
most their fraction; texts are read; every value has a text. An undefined value stays undefined.
-/

namespace RowFilter

namespace Number

/-- The number without its fraction; none for what is not finite. -/
def truncate? : Number → Option Int
  | integer n => some n
  | decimal d => some d.truncate
  | double x => Double.truncate? x

def isZero : Number → Bool
  | integer n => n == 0
  | decimal d => d.isZero
  | double x => x == 0.0

/-- The number as a decimal, exactly; none for what is not finite. -/
def toDecimal? : Number → Option Decimal
  | integer n => some (.ofInt n)
  | decimal d => some d
  | double x => Decimal.ofDouble? x

/-- The number as a value of a numeric or Boolean type, if it has one. A number other than zero,
a NaN among them, is true. -/
def toValue? (n : Number) : ValueType → Option Value
  | .boolean => some (.boolean (!n.isZero))
  | .integer t => n.truncate?.bind fun k => (Word.ofInt? t k).map (.integer t)
  | .decimal => n.toDecimal?.map .decimal
  | .double => some (.double n.toDouble)
  | _ => none

end Number

namespace Value

/-- Reads a Boolean: `true` or `false` in any case, or a whole number. -/
def readBoolean? (s : List Char) : Option Bool :=
  match String.ofList (Text.lowerAscii s) with
  | "true" => some true
  | "false" => some false
  | _ => (Integer.readSigned? 64 s).map (· != 0)

/-- Reads a value of a type from a text without blanks at its ends. -/
def read? (s : List Char) : ValueType → Option Value
  | .boolean => (readBoolean? s).map boolean
  | .integer t => (Integer.readSigned? 128 s).bind fun n => (Word.ofInt? t n).map (integer t)
  | .decimal => (Decimal.read? s).map decimal
  | .double => (Double.read? s).map double
  | .string => some (string (String.ofList s))
  | .guid => (Guid.read? s).map guid
  | .dateTime => (Calendar.DateTime.read? s).map dateTime
  | .undefined => some undefined

/-- The operation that conversion faults are reported under. -/
def conversion : String := "conversion"

/-- The value as one of the type `target`. -/
def convert (v : Value) (target : ValueType) : Except Error Value :=
  if v.valueType = target then .ok v
  else match v, target with
    | undefined, _ | _, .undefined => .ok undefined
    | _, .string => .ok (string v.text)
    | string s, _ =>
      match read? (Text.trim s.toList) target with
      | some w => .ok w
      | none => .error (.evaluation conversion (.cannotParse s target))
    | _, _ =>
      match v.number?.bind (·.toValue? target) with
      | some w => .ok w
      | none => .error (.evaluation conversion (.cannotConvert v.valueType v.text target))

end Value

end RowFilter
