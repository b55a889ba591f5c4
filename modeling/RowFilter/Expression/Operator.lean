/-!
The operators of the language and how they are written.
-/

namespace RowFilter

inductive UnaryOperator where
  | plus
  | minus
  | not
  | bitwiseNot
deriving DecidableEq, Repr

/-- How the operator is written before its operand. -/
def UnaryOperator.text : UnaryOperator → String
  | plus => "+"
  | minus => "-"
  | not => "NOT "
  | bitwiseNot => "~"

/-- How the operator is named in a message. -/
def UnaryOperator.name : UnaryOperator → String
  | plus => "+"
  | minus => "-"
  | not => "NOT"
  | bitwiseNot => "~"

inductive Operator where
  | multiply
  | divide
  | modulus
  | add
  | subtract
  | shiftLeft
  | shiftRight
  | bitwiseAnd
  | bitwiseOr
  | bitwiseXor
  | less
  | lessOrEqual
  | greater
  | greaterOrEqual
  | equal
  | equalExact
  | notEqual
  | notEqualExact
  | like
  | likeExact
  | notLike
  | notLikeExact
  | and
  | or
deriving DecidableEq, Repr

namespace Operator

def text : Operator → String
  | multiply => "*"
  | divide => "/"
  | modulus => "%"
  | add => "+"
  | subtract => "-"
  | shiftLeft => "<<"
  | shiftRight => ">>"
  | bitwiseAnd => "&"
  | bitwiseOr => "|"
  | bitwiseXor => "^"
  | less => "<"
  | lessOrEqual => "<="
  | greater => ">"
  | greaterOrEqual => ">="
  | equal => "="
  | equalExact => "==="
  | notEqual => "<>"
  | notEqualExact => "!=="
  | like => "LIKE"
  | likeExact => "LIKE BINARY"
  | notLike => "NOT LIKE"
  | notLikeExact => "NOT LIKE BINARY"
  | and => "AND"
  | or => "OR"

def isComparison : Operator → Bool
  | less | lessOrEqual | greater | greaterOrEqual => true
  | equal | equalExact | notEqual | notEqualExact => true
  | _ => false

def isLike : Operator → Bool
  | like | likeExact | notLike | notLikeExact => true
  | _ => false

def isBitwise : Operator → Bool
  | shiftLeft | shiftRight | bitwiseAnd | bitwiseOr | bitwiseXor => true
  | _ => false

def isLogical : Operator → Bool
  | and | or => true
  | _ => false

/-- The LIKE operator of a given form. -/
def ofLike (negated exact : Bool) : Operator :=
  match negated, exact with
  | false, false => like
  | false, true => likeExact
  | true, false => notLike
  | true, true => notLikeExact

end Operator

end RowFilter
