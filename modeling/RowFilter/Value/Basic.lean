import RowFilter.Calendar.Text
import RowFilter.Guid
import RowFilter.Number.Decimal.Text
import RowFilter.Number.Shortest
import RowFilter.Value.Type

/-!
Values: what a cell holds and what an expression gives. `undefined` stands for a missing value
and differs from `false`. Every value has a type and a text.
-/

namespace RowFilter

inductive Value where
  | undefined
  | boolean (b : Bool)
  | integer (t : IntType) (n : Word t)
  | decimal (d : Decimal)
  | double (x : Float)
  | string (s : String)
  | guid (g : Guid)
  | dateTime (t : Calendar.DateTime)
deriving DecidableEq, Inhabited

/-- A value seen as a number, before it enters a type. -/
inductive Number where
  | integer (n : Int)
  | decimal (d : Decimal)
  | double (x : Float)
deriving DecidableEq

namespace Value

def valueType : Value → ValueType
  | undefined => .undefined
  | boolean _ => .boolean
  | integer t _ => .integer t
  | decimal _ => .decimal
  | double _ => .double
  | string _ => .string
  | guid _ => .guid
  | dateTime _ => .dateTime

def isUndefined : Value → Bool
  | undefined => true
  | _ => false

/-- An Int32 from a number that is known to fit. -/
def int32 (n : Int) : Value := integer .int32 (.wrap .int32 n)

/-! ## Views -/

def toBool? : Value → Option Bool
  | boolean b => some b
  | _ => none

def toString? : Value → Option String
  | string s => some s
  | _ => none

def toGuid? : Value → Option Guid
  | guid g => some g
  | _ => none

/-- The number of an integer value, if it is an Int64. -/
def toInt64? : Value → Option (Word .int64)
  | integer _ n => Word.ofInt? .int64 n.toInt
  | _ => none

/-- Booleans count as zero and one. -/
def number? : Value → Option Number
  | boolean b => some (.integer (if b then 1 else 0))
  | integer _ n => some (.integer n.toInt)
  | decimal d => some (.decimal d)
  | double x => some (.double x)
  | _ => none

end Value

namespace Number

/-- The nearest double. -/
def toDouble : Number → Float
  | integer n => Float.ofInt n
  | decimal d => d.toDouble
  | double x => x

end Number

namespace Value

/-- The nearest double of a Boolean or a number. -/
def toDouble? (v : Value) : Option Float :=
  v.number?.map Number.toDouble

/-! ## Text -/

def text : Value → String
  | undefined => ""
  | boolean b => if b then "true" else "false"
  | integer _ n => String.ofList (intText n.toInt)
  | decimal d => String.ofList d.text
  | double x => String.ofList (Double.text x)
  | string s => s
  | guid g => String.ofList g.text
  | dateTime t => String.ofList t.text
where
  /-- Decimal digits with a minus sign before a negative number. -/
  intText (n : Int) : List Char :=
    if n < 0 then '-' :: Nat.toDigits 10 n.natAbs else Nat.toDigits 10 n.natAbs

end Value

end RowFilter
