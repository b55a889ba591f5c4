import RowFilter.Evaluation.Functions.Date
import RowFilter.Evaluation.Functions.Kind
import RowFilter.Evaluation.Functions.Number
import RowFilter.Evaluation.Functions.Text
import RowFilter.Evaluation.Logic
import RowFilter.Evaluation.Operator
import RowFilter.Expression.Basic
import RowFilter.Table.Basic

/-!
The value of an expression on a row. Operands and arguments are evaluated from left to right, and
the first error is the error of the whole. Logical operators, IIF, COALESCE and ISNULL look only
at what they need.
-/

namespace RowFilter

/-- The value of a function whose arguments are all needed. -/
def Call.value (c : Call) (clock : Clock) : Except Error Value :=
  match c.function with
  | .abs => c.magnitude
  | .ceiling => c.rounded .up Float.ceil
  | .floor => c.rounded .down Float.floor
  | .round => c.rounded .halfAway Float.round
  | .sqrt => c.squareRoot
  | .power => c.power
  | .maxOf => extreme .gt c.arguments
  | .minOf => extreme .lt c.arguments
  | .convert => c.conversion
  | .isNumeric => .ok (.boolean (c.argument 0).isNumeric)
  | .isInteger => .ok (.boolean (c.argument 0).isInteger)
  | .isDate => .ok (.boolean (c.argument 0).isDate)
  | .isGuid => .ok (.boolean (c.argument 0).isGuid)
  | .now => .ok (.dateTime clock.localNow)
  | .utcNow => .ok (.dateTime clock.universalNow)
  | .dateAdd => c.dateAdd
  | .dateDiff => c.dateDiff
  | .datePart => c.datePart
  | .regexMatch | .regexVal => c.matching
  | _ => c.text

namespace Expression

/-- The outcome of testing the condition of IIF: an undefined one counts as false. -/
def condition : Value → Except Error Bool
  | .boolean b => .ok b
  | .undefined => .ok false
  | v => .error (.evaluation Function.iif.name (.condition v.valueType))

variable (clock : Clock) (row : Row)

mutual

def evaluate : Expression → Except Error Value
  | value v => .ok v
  | column c => .ok (row.cell c.index)
  | unary op operand => do op.apply (← operand.evaluate)
  | operator op left right =>
    if op.isLogical then do
      let p ← op.truth (← left.evaluate)
      if op.isSettledBy p then return p.toValue
      let q ← op.truth (← right.evaluate)
      return (op.connect p q).toValue
    else do
      let a ← left.evaluate
      let b ← right.evaluate
      op.apply a b
  | function f arguments =>
    if !f.arity.accepts arguments.length then
      .error (.evaluation f.name (.arity f.arity.text arguments.length))
    else
      match f with
      | .iif => evaluateChoice arguments
      | .coalesce | .isNull => evaluateFirst arguments
      | f => do (Call.mk f (← evaluateAll arguments)).value clock
  | inList operand items negated exact => do
    match ← operand.evaluate with
    | .undefined => return .undefined
    | v => return .boolean ((← isAmong v exact items) != negated)
  | isNull operand negated => do
    return .boolean ((← operand.evaluate).isUndefined != negated)

/-- The values of all expressions. -/
def evaluateAll : List Expression → Except Error (List Value)
  | [] => .ok []
  | e :: rest => do return (← e.evaluate) :: (← evaluateAll rest)

/-- The first value that is not undefined. -/
def evaluateFirst : List Expression → Except Error Value
  | [] => .ok .undefined
  | e :: rest => do
    match ← e.evaluate with
    | .undefined => evaluateFirst rest
    | v => return v

/-- The second or the third expression, as the first one holds or not. -/
def evaluateChoice : List Expression → Except Error Value
  | [c, a, b] => do if ← condition (← c.evaluate) then a.evaluate else b.evaluate
  | _ => .ok .undefined

/-- Some item has a value that equals `v`; items are evaluated up to the first such one. An item
that cannot be compared with `v` does not equal it. -/
def isAmong (v : Value) (exact : Bool) : List Expression → Except Error Bool
  | [] => .ok false
  | e :: rest => do
    let w ← e.evaluate
    if !w.isUndefined && v.matches? w exact then return true
    else isAmong v exact rest

end

end Expression

end RowFilter
