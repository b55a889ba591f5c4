import RowFilter.Syntax.Tree

/-!
Syntax as a flat list of nodes that refer to one another by number. A node is appended behind those
that it refers to, and the list of all statements comes last.
-/

namespace RowFilter.Syntax

open Text (Position)

/-- A node; children are given by their numbers. -/
inductive Node where
  | statementList (statements : List Nat)
  | identifierStatement (i : Identifier)
  | filterStatement (clause : FilterClause) (condition : Nat)
  | expressionStatement (e : Nat)
  | not (operand : Nat)
  | logical (op : Operator) (left right : Nat)
  | predicate (op : Operator) (left right : Nat)
  | inList (operand : Nat) (items : List Nat) (negated exact : Bool)
  | isNull (operand : Nat) (negated : Bool)
  | unary (op : UnaryOperator) (operand : Nat)
  | binary (op : Operator) (left right : Nat)
  | literal (l : Literal)
  | column (name : String)
  | call (name : String) (arguments : List Nat)
deriving DecidableEq, Repr

structure Placed where
  node : Node
  position : Position
deriving DecidableEq, Repr

/-- Numbered nodes, one of which is the root. -/
structure Arena where
  nodes : Array Placed
  root : Nat
deriving DecidableEq, Repr

namespace Arena

def node? (a : Arena) (id : Nat) : Option Node :=
  a.nodes[id]?.map Placed.node

/-- The top level statements in document order; none if the root lists no statements. -/
def statements (a : Arena) : List Nat :=
  match a.node? a.root with
  | some (.statementList ids) => ids
  | _ => []

/-- Appends a node and gives its number. -/
def push (nodes : Array Placed) (node : Node) (position : Position) : Nat × Array Placed :=
  (nodes.size, nodes.push ⟨node, position⟩)

end Arena

end RowFilter.Syntax
