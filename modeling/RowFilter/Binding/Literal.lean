import RowFilter.Number.Integer
import RowFilter.Syntax.Tree
import RowFilter.Value.Convert

/-!
The value that a literal stands for. An integer has the first of the types Int32, Int64 and UInt64
that holds it, and is a double if none does.
-/

namespace RowFilter

namespace Value

/-- A natural number in the narrowest type of a literal. -/
def ofNat (n : Nat) : Value :=
  match Word.ofInt? .int32 n, Word.ofInt? .int64 n, Word.ofInt? .uint64 n with
  | some w, _, _ => .integer .int32 w
  | none, some w, _ => .integer .int64 w
  | none, none, some w => .integer .uint64 w
  | none, none, none => .double (Double.ofScaled n 0)

end Value

namespace Syntax.Literal

/-- The literal's value, or what it was read as in vain. -/
def required (text what : String) : Option Value → Except Error Value
  | some v => .ok v
  | none => .error (.bind (.badLiteral text what))

/-- Reads an integer literal. One of more than 128 bits is read like a double. -/
def readInteger? (s : List Char) : Option Value :=
  match Integer.readUnsigned? 128 s with
  | some n => some (.ofNat n)
  | none => (Double.read? s).map .double

def value : Literal → Except Error Value
  | null => .ok .undefined
  | boolean b => .ok (.boolean b)
  | integer text => required text "integer" (readInteger? text.toList)
  | numeric text => required text "numeric" ((Double.read? text.toList).map .double)
  | guid text => required text "GUID" ((Guid.read? text.toList).map .guid)
  | dateTime text =>
    required text "date/time" ((Calendar.DateTime.read? text.toList).map .dateTime)
  | string text | measurementKey text | pointTag text => .ok (.string text)

end Syntax.Literal

end RowFilter
