import RowFilter.Number.Word
import RowFilter.Text.Blank
import RowFilter.Text.CaseMap

/-!
The types of values, their names, and the type two operands are promoted to before they are
combined.
-/

namespace RowFilter

inductive ValueType where
  | boolean
  | integer (t : IntType)
  | decimal
  | double
  | string
  | guid
  | dateTime
  | undefined
deriving DecidableEq, Repr

namespace ValueType

abbrev int32 : ValueType := integer .int32
abbrev int64 : ValueType := integer .int64
abbrev uint32 : ValueType := integer .uint32
abbrev uint64 : ValueType := integer .uint64

def name : ValueType → String
  | boolean => "Boolean"
  | integer .int32 => "Int32"
  | integer .int64 => "Int64"
  | integer .uint32 => "UInt32"
  | integer .uint64 => "UInt64"
  | decimal => "Decimal"
  | double => "Double"
  | string => "String"
  | guid => "Guid"
  | dateTime => "DateTime"
  | undefined => "Undefined"

def isInteger : ValueType → Bool
  | integer _ => true
  | _ => false

def isNumeric : ValueType → Bool
  | integer _ | decimal | double => true
  | _ => false

/-- Position in a list of all types, by which values that cannot be compared are sorted. -/
def position : ValueType → Nat
  | boolean => 0
  | integer .int32 => 1
  | integer .int64 => 2
  | integer .uint32 => 3
  | integer .uint64 => 4
  | decimal => 5
  | double => 6
  | string => 7
  | guid => 8
  | dateTime => 9
  | undefined => 10

/-! ## Promotion -/

/-- Rank of the types that can be combined, the wider type having the higher rank. -/
def rank? : ValueType → Option Nat
  | boolean => some 0
  | integer .int32 => some 1
  | integer .uint32 => some 2
  | integer .int64 => some 3
  | integer .uint64 => some 4
  | decimal => some 5
  | double => some 6
  | _ => none

/-- The common type of two types, the first one having the lower rank: the second, unless it is
unsigned and the first is signed, when the next type that holds both ranges is taken. -/
def promoteUp : ValueType → ValueType → ValueType
  | integer .int32, integer .uint32 => int64
  | integer .int32, integer .uint64 => decimal
  | integer .int64, integer .uint64 => decimal
  | _, b => b

/-- The type to which two Boolean or numeric operands are promoted. -/
def promote? (a b : ValueType) : Option ValueType :=
  match a.rank?, b.rank? with
  | some m, some n => some (if m ≤ n then promoteUp a b else promoteUp b a)
  | _, _ => none

/-! ## Names -/

/-- The type a bare name stands for, in lowercase. The small integer types stand for Int32. -/
def ofBareName? : String → Option ValueType
  | "boolean" | "bool" => some boolean
  | "int16" | "int32" | "uint16" | "byte" | "sbyte" | "int" => some int32
  | "int64" | "long" => some int64
  | "uint32" => some uint32
  | "uint64" => some uint64
  | "decimal" => some decimal
  | "double" | "single" | "float" => some double
  | "string" => some string
  | "guid" => some guid
  | "datetime" => some dateTime
  | _ => none

/-- The label that may stand before a type name. -/
def label : List Char := "system.".toList

/-- The type a name stands for, in any case, with blanks around it and the label before it. -/
def ofName? (s : String) : Option ValueType :=
  let folded := Text.lowerAscii (Text.trim s.toList)
  let bare := if label.isPrefixOf folded then folded.drop label.length else folded
  ofBareName? (String.ofList bare)

end ValueType

end RowFilter
