import RowFilter.Expression.Function
import RowFilter.Expression.Operator
import RowFilter.Value.Basic

/-!
Expressions whose columns are resolved, and their text.
-/

namespace RowFilter

/-- A column by its position, with the name it goes by in its table. -/
structure ColumnRef where
  name : String
  index : Nat
deriving DecidableEq, Repr

inductive Expression where
  | value (v : Value)
  | column (c : ColumnRef)
  | unary (op : UnaryOperator) (operand : Expression)
  | operator (op : Operator) (left right : Expression)
  | function (f : Function) (arguments : List Expression)
  | inList (operand : Expression) (items : List Expression) (negated exact : Bool)
  | isNull (operand : Expression) (negated : Bool)
deriving Inhabited

namespace Expression

/-- A text in single quotes, with every quote in it written twice. -/
def quote (s : String) : String :=
  String.ofList ('\x27' :: s.toList.flatMap (fun c => if c = '\x27' then [c, c] else [c]) ++
    ['\x27'])

/-- How a value is written as a literal. -/
def literal : Value → String
  | .undefined => "NULL"
  | .string s => quote s
  | .dateTime t => s!"#{String.ofList t.text}#"
  | v => v.text

mutual

def text : Expression → String
  | value v => literal v
  | column c => s!"[{c.name}]"
  | unary op operand => op.text ++ operand.text
  | operator op left right => s!"({left.text} {op.text} {right.text})"
  | function f arguments => s!"{f.name}({textList arguments})"
  | inList operand items negated exact =>
    let no := if negated then "NOT " else ""
    let binary := if exact then "BINARY " else ""
    s!"{operand.text} {no}IN {binary}({textList items})"
  | isNull operand negated =>
    let no := if negated then "NOT " else ""
    s!"{operand.text} IS {no}NULL"

/-- The texts of expressions with commas between them. -/
def textList : List Expression → String
  | [] => ""
  | [e] => e.text
  | e :: rest => s!"{e.text}, {textList rest}"

end

end Expression

end RowFilter
