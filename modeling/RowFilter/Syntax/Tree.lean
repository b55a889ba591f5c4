import RowFilter.Expression.Operator
import RowFilter.Text.Position

/-!
The syntax of filter expressions: a document of statements, each naming a row or holding a term.
Every part keeps the position of its first token, or of the operator that makes it.
-/

namespace RowFilter.Syntax

open Text (Position)

/-- What an identifier statement names a row by. -/
inductive IdentifierKind where
  | guid
  | measurementKey
  | pointTag
deriving DecidableEq, Repr

/-- An identifier as written, without the quotes of a point tag. -/
structure Identifier where
  kind : IdentifierKind
  text : String
deriving DecidableEq, Repr

/-- A literal as written. -/
inductive Literal where
  | null
  | boolean (b : Bool)
  | integer (text : String)
  | numeric (text : String)
  | string (text : String)
  | guid (text : String)
  | dateTime (text : String)
  | measurementKey (text : String)
  | pointTag (text : String)
deriving DecidableEq, Repr

structure OrderingTerm where
  column : String
  ascending : Bool
  exact : Bool
deriving DecidableEq, Repr

inductive Term where
  | literal (position : Position) (l : Literal)
  | column (position : Position) (name : String)
  | call (position : Position) (name : String) (arguments : List Term)
  /-- A sign, a complement or a negation of a value. -/
  | unary (position : Position) (op : UnaryOperator) (operand : Term)
  /-- Arithmetic and bitwise operations. -/
  | binary (position : Position) (op : Operator) (left right : Term)
  /-- Comparisons and LIKE. -/
  | predicate (position : Position) (op : Operator) (left right : Term)
  | inList (position : Position) (operand : Term) (items : List Term) (negated exact : Bool)
  | isNull (position : Position) (operand : Term) (negated : Bool)
  /-- A negated condition. -/
  | not (position : Position) (operand : Term)
  | logical (position : Position) (op : Operator) (left right : Term)

/-- The head of a FILTER statement. -/
structure FilterClause where
  table : String
  topLimit : Option Int
  orderBy : List OrderingTerm
deriving DecidableEq, Repr

inductive Statement where
  | identifier (position : Position) (i : Identifier)
  | filter (position : Position) (clause : FilterClause) (condition : Term)
  | expression (position : Position) (e : Term)

structure Document where
  /-- Where the first token is. -/
  position : Position
  statements : List Statement

end RowFilter.Syntax
