import RowFilter.Binding.Bind
import RowFilter.Selection.Select
import RowFilter.Syntax.Arena.Parser

/-!
Queries of a single table: the trees of an expression, its value on a row, and the rows that it
selects.
-/

namespace RowFilter

/-- Reads and binds an expression. -/
def bindText (text : String) (scope : Scope) (options : Options) : Logged Bound :=
  match Syntax.Arena.parse text with
  | .ok arena => arena.bind scope options
  | .error e => (.error e, [])

namespace Table

/-- Nothing is tracked, and the table is the primary one. -/
def queryOptions (t : Table) (quiet : Bool) : Options :=
  ⟨quiet, false, false, some t.name, []⟩

/-- Binds an expression to the table alone and reports an error in it. -/
def bindText (t : Table) (text : String) (quiet : Bool) : Logged Bound :=
  match RowFilter.bindText text (.table t) (t.queryOptions quiet) with
  | (.ok bound, log) => (.ok bound, log)
  | (.error e, log) => (.error e, log ++ [.reported quiet text e])

/-- The trees of all statements. -/
def trees (t : Table) (text : String) (quiet : Bool) : Logged (List ExpressionTree) :=
  (t.bindText text quiet).check fun bound => .ok bound.trees

/-- The only one of some trees. -/
def onlyTree (t : Table) (text : String) : List ExpressionTree → Except Error ExpressionTree
  | [tree] => .ok tree
  | [] => .error (.use (.noTrees text t.name))
  | list => .error (.use (.severalTrees text list.length))

/-- The tree of an expression with a single statement. -/
def tree (t : Table) (text : String) (quiet : Bool) : Logged ExpressionTree :=
  (t.trees text quiet).check (t.onlyTree text)

/-- The value of a single statement on a row. -/
def evaluate (t : Table) (clock : Clock) (row : Row) (text : String) (quiet : Bool) :
    Logged Value :=
  (t.tree text quiet).check fun tree => tree.evaluate clock row

/-- The rows that a single statement selects. -/
def select (t : Table) (clock : Clock) (text : String) (quiet : Bool) : Logged (List Row) :=
  (t.tree text quiet).andThen fun tree => tree.select clock t

end Table

end RowFilter
