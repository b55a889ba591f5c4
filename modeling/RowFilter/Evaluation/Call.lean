import RowFilter.Calendar.Interval
import RowFilter.Expression.Function
import RowFilter.Value.Convert

/-!
A call of a function with its arguments evaluated. An argument is asked for as what the function
needs; an undefined one is none, and one of the wrong kind is reported by its position.
-/

namespace RowFilter

structure Call where
  function : Function
  arguments : List Value

namespace Call

/-- The argument at a position, counting from zero; what is not given is undefined. -/
def argument (c : Call) (i : Nat) : Value :=
  c.arguments.getD i .undefined

def error (c : Call) (fault : EvaluationFault) : Error :=
  .evaluation c.function.name fault

/-- Reports that an argument is not what was expected. -/
def mismatch (c : Call) (i : Nat) (expected : String) : Error :=
  c.error (.argument (i + 1) expected (c.argument i).valueType)

def string? (c : Call) (i : Nat) : Except Error (Option (List Char)) :=
  match c.argument i with
  | .undefined => .ok none
  | .string s => .ok (some s.toList)
  | _ => .error (c.mismatch i "a String")

/-- A switch, off if it is not given. -/
def flag (c : Call) (i : Nat) : Except Error Bool :=
  match c.argument i with
  | .undefined => .ok false
  | v =>
    match v.convert .boolean with
    | .ok (.boolean b) => .ok b
    | _ => .error (c.mismatch i "a Boolean")

/-- A number in the range of Int32. -/
def integer? (c : Call) (i : Nat) : Except Error (Option Int) :=
  match c.argument i with
  | .undefined => .ok none
  | v =>
    match v.convert .int32 with
    | .ok (.integer _ n) => .ok (some n.toInt)
    | _ => .error (c.mismatch i "an integer")

def double? (c : Call) (i : Nat) : Except Error (Option Float) :=
  match c.argument i with
  | .undefined => .ok none
  | v =>
    match v.convert .double with
    | .ok (.double x) => .ok (some x)
    | _ => .error (c.mismatch i "numeric")

def dateTime? (c : Call) (i : Nat) : Except Error (Option Calendar.DateTime) :=
  match c.argument i with
  | .undefined => .ok none
  | .dateTime t => .ok (some t)
  | .string s =>
    match Calendar.DateTime.read? s.toList with
    | some t => .ok (some t)
    | none => .error (c.mismatch i "a DateTime")
  | _ => .error (c.mismatch i "a DateTime")

/-- A text that has to be given. -/
def name (c : Call) (i : Nat) (expected : String) : Except Error String := do
  match ← c.string? i with
  | some s => return String.ofList s
  | none => throw (c.mismatch i expected)

def interval (c : Call) (i : Nat) : Except Error Calendar.Interval := do
  let name ← c.name i "a time interval name"
  match Calendar.Interval.read? name with
  | some interval => return interval
  | none => throw (c.error (.unknownInterval name))

end Call

/-- A count as an Int32, at most the greatest one. -/
def Value.count (n : Nat) : Value :=
  .int32 (min n IntType.int32.greatest)

end RowFilter
