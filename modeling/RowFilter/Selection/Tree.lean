import RowFilter.Evaluation.Evaluate

/-!
Expression trees: an expression bound to a table, with the order and the number of the rows to
select.
-/

namespace RowFilter

/-- A column to order rows by. -/
structure OrderTerm where
  column : ColumnRef
  ascending : Bool
  exact : Bool
deriving DecidableEq, Repr

structure ExpressionTree where
  table : String
  /-- The most rows to select; a negative number is no limit. -/
  topLimit : Int
  orderBy : List OrderTerm
  root : Option Expression

namespace ExpressionTree

/-- A tree that selects from a table without order or limit. -/
def ofTable (table : String) : ExpressionTree := ⟨table, -1, [], none⟩

def limit? (t : ExpressionTree) : Option Nat :=
  if t.topLimit < 0 then none else some t.topLimit.toNat

/-- The value of the tree on a row; a tree without an expression is undefined. -/
def evaluate (t : ExpressionTree) (clock : Clock) (row : Row) : Except Error Value :=
  match t.root with
  | some e => e.evaluate clock row
  | none => .ok .undefined

/-- The text of the expression. -/
def text (t : ExpressionTree) : String :=
  match t.root with
  | some e => e.text
  | none => ""

end ExpressionTree

end RowFilter
