import RowFilter.Binding.Identifier
import RowFilter.Binding.Literal
import RowFilter.Selection.Tree
import RowFilter.Syntax.Walk

/-!
Binding: a listener that builds expression trees while the nodes of a document are walked. The
expression of a node is built when the node is complete, out of those of its children, which are
taken away as they are used.
-/

namespace RowFilter

/-- What the statements of a document were bound to: trees, and what identifier statements name. -/
structure Bound where
  trees : List ExpressionTree
  named : List Match

namespace Binding

open Syntax

/-- Expressions by the numbers of the nodes that they were built for. -/
abbrev Built := List (Nat × Expression)

namespace Built

def put (built : Built) (id : Nat) (e : Expression) : Built :=
  (id, e) :: built.filter (·.1 != id)

/-- Takes away the expression of a node. -/
def take (built : Built) (id : Nat) : Except Error (Expression × Built) :=
  match built.lookup id with
  | some e => .ok (e, built.filter (·.1 != id))
  | none => .error (.bind (.notBuilt id))

def takeAll (built : Built) : List Nat → Except Error (List Expression × Built)
  | [] => .ok ([], built)
  | id :: ids => do
    let (e, built) ← built.take id
    let (es, built) ← takeAll built ids
    return (e :: es, built)

end Built

/-- What has been bound so far: the expressions of the current statement, its table and its tree;
the trees and matches of the statements before it; and what was reported. -/
structure State where
  built : Built
  active : Option Table
  current : Option ExpressionTree
  bound : Bound
  log : Log

namespace State

def start : State := ⟨[], none, none, ⟨[], []⟩, []⟩

/-- The table that columns are looked up in. -/
def activeTable (s : State) : Except Error Table :=
  match s.active with
  | some t => .ok t
  | none => .error (.bind .noTableInScope)

end State

/-- The terms of an ORDER BY list with their columns resolved. -/
def orderTerms (t : Table) : List OrderingTerm → Except Error (List OrderTerm)
  | [] => .ok []
  | term :: rest => do
    let column ← t.resolve term.column
    return ⟨column, term.ascending, term.exact⟩ :: (← orderTerms t rest)

/-- The function of a call, which has to accept the number of arguments. -/
def calledFunction (name : String) (received : Nat) : Except Error Function :=
  match Function.ofName? name with
  | none => .error (.bind (.unknownFunction name))
  | some f =>
    if f.arity.accepts received then .ok f
    else .error (.bind (.arity f.name f.arity.text received))

/-- The expression of a node and the expressions left; none for nodes that are no terms. -/
def express (s : State) : Node → Except Error (Option (Expression × Built))
  | .literal l => do return some (.value (← l.value), s.built)
  | .column name => do
    let t ← s.activeTable
    return some (.column (← t.resolve name), s.built)
  | .call name ids => do
    let f ← calledFunction name ids.length
    let (arguments, built) ← s.built.takeAll ids
    return some (.function f arguments, built)
  | .unary op id => do
    let (operand, built) ← s.built.take id
    return some (.unary op operand, built)
  | .not id => do
    let (operand, built) ← s.built.take id
    return some (.unary .not operand, built)
  | .binary op l r | .predicate op l r | .logical op l r => do
    let (left, built) ← s.built.take l
    let (right, built) ← built.take r
    return some (.operator op left right, built)
  | .inList id ids negated exact => do
    let (operand, built) ← s.built.take id
    let (items, built) ← built.takeAll ids
    return some (.inList operand items negated exact, built)
  | .isNull id negated => do
    let (operand, built) ← s.built.take id
    return some (.isNull operand negated, built)
  | .statementList _ | .identifierStatement _ | .filterStatement .. | .expressionStatement _ =>
    return none

/-- A node that is a term has been completed. -/
def completeTerm (s : State) (id : Nat) (node : Node) : Except Error State := do
  match ← express s node with
  | some (e, built) => return { s with built := built.put id e }
  | none => return s

variable (scope : Scope) (options : Options)

/-- A statement begins. A bare expression refers to the primary table. -/
def enterStatement (s : State) (node : Node) : Except Error State := do
  let s := { s with built := [], active := none, current := none }
  match node with
  | .expressionStatement _ =>
    let t ← scope.primaryTable options.primaryTable
    return { s with active := some t, current := some (.ofTable t.name) }
  | _ => return s

/-- A FILTER clause begins: its table and its order are known before its condition. -/
def enterFilter (s : State) : Node → Except Error State
  | .filterStatement clause _ => do
    let t ← scope.filterTable clause.table
    let order ← orderTerms t clause.orderBy
    let tree : ExpressionTree := ⟨t.name, clause.topLimit.getD (-1), order, none⟩
    return { s with active := some t, current := some tree }
  | _ => .ok s

/-- An identifier statement is complete. Without tracking it has nothing to contribute. -/
def completeIdentifier (s : State) : Node → Except Error State
  | .identifierStatement i =>
    if !options.trackRows && !options.trackSignalIds then
      .ok { s with log := s.log ++ [.identifierSkipped i.text] }
    else do
      let t ← scope.primaryTable options.primaryTable
      let (found, isRow) ← i.resolve t (options.idFieldsOf t.name)
      let log := s.log ++ [.identifierResolved i.text isRow]
      if found.isKnown then
        return { s with log, bound := { s.bound with named := s.bound.named ++ [found] } }
      else return { s with log }
  | _ => .ok s

/-- The node of the condition of a statement. -/
def conditionOf? : Node → Option Nat
  | .filterStatement _ condition => some condition
  | .expressionStatement e => some e
  | _ => none

/-- A statement is complete: its tree gets its expression. -/
def completeStatement (s : State) (node : Node) : Except Error State :=
  match conditionOf? node with
  | none => .ok s
  | some id => do
    let (root, built) ← s.built.take id
    match s.current with
    | none => return { s with built }
    | some tree =>
      let tree := { tree with root := some root }
      return { s with
        built
        current := none
        bound := { s.bound with trees := s.bound.trees ++ [tree] }
        log := s.log ++ [.treeBound tree.table tree.topLimit tree.text] }

/-- What an event about a node does. -/
def step (s : State) (kind : EventKind) (id : Nat) (node : Node) : Except Error State :=
  match kind with
  | .enterStatement => enterStatement scope options s node
  | .enterFilter => enterFilter scope s node
  | .exitIdentifier => completeIdentifier scope options s node
  | .exitStatement => completeStatement s node
  | .exitExpression | .exitPredicate | .exitValue | .exitLiteral | .exitColumn | .exitCall =>
    completeTerm s id node

/-- The listener that binds the nodes of an arena. -/
def listener (arena : Arena) : Listener State Error := fun s event =>
  match arena.node? event.id with
  | none => (s, none)
  | some node =>
    match step scope options s event.kind event.id node with
    | .ok s => (s, none)
    | .error e => (s, some e)

end Binding

/-- Binds all statements, up to the first error. -/
def Syntax.Arena.bind (arena : Syntax.Arena) (scope : Scope) (options : Options) :
    Logged Bound :=
  match arena.walk (Binding.listener scope options arena) .start with
  | (s, none) => (.ok s.bound, s.log)
  | (s, some e) => (.error e, s.log)

end RowFilter
