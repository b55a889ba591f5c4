import RowFilter.Syntax.Arena

/-!
Walking the nodes of a document. A walk is a list of events in document order: statements and
FILTER clauses are entered before their parts, every node is completed after its children. A
listener is told the events one by one until it fails.
-/

namespace RowFilter.Syntax

inductive EventKind where
  | enterStatement
  | exitStatement
  | enterFilter
  | exitIdentifier
  /-- A negated condition or a logical operation is complete. -/
  | exitExpression
  | exitPredicate
  /-- A sign or an arithmetic or bitwise operation is complete. -/
  | exitValue
  | exitLiteral
  | exitColumn
  | exitCall
deriving DecidableEq, Repr

structure Event where
  kind : EventKind
  id : Nat
deriving DecidableEq, Repr

namespace Arena

/-- The events of a node and of those below it, down to `depth` levels. -/
def nodeEvents (a : Arena) : (depth : Nat) → (id : Nat) → List Event
  | 0, _ => []
  | depth + 1, id =>
    let below := a.nodeEvents depth
    match a.node? id with
    | none => []
    | some (.statementList ids) => ids.flatMap below
    | some (.identifierStatement _) => [⟨.exitIdentifier, id⟩]
    | some (.filterStatement _ condition) => ⟨.enterFilter, id⟩ :: below condition
    | some (.expressionStatement e) => below e
    | some (.not operand) => below operand ++ [⟨.exitExpression, id⟩]
    | some (.logical _ l r) => below l ++ below r ++ [⟨.exitExpression, id⟩]
    | some (.predicate _ l r) => below l ++ below r ++ [⟨.exitPredicate, id⟩]
    | some (.inList operand items _ _) =>
      below operand ++ items.flatMap below ++ [⟨.exitPredicate, id⟩]
    | some (.isNull operand _) => below operand ++ [⟨.exitPredicate, id⟩]
    | some (.unary _ operand) => below operand ++ [⟨.exitValue, id⟩]
    | some (.binary _ l r) => below l ++ below r ++ [⟨.exitValue, id⟩]
    | some (.literal _) => [⟨.exitLiteral, id⟩]
    | some (.column _) => [⟨.exitColumn, id⟩]
    | some (.call _ arguments) => arguments.flatMap below ++ [⟨.exitCall, id⟩]

/-- The events of one statement. No path through the nodes is longer than their number. -/
def statementEvents (a : Arena) (id : Nat) : List Event :=
  ⟨.enterStatement, id⟩ :: a.nodeEvents a.nodes.size id ++ [⟨.exitStatement, id⟩]

/-- The events of a walk over all statements. -/
def events (a : Arena) : List Event :=
  a.statements.flatMap a.statementEvents

end Arena

/-- A listener with a state of its own: what it makes of an event, and an error that stops the
walk. -/
abbrev Listener (σ ε : Type) := σ → Event → σ × Option ε

/-- Tells a listener the events in order, up to and including the first at which it fails. -/
def Listener.run {σ ε : Type} (l : Listener σ ε) (s : σ) : List Event → σ × Option ε
  | [] => (s, none)
  | e :: rest =>
    match l s e with
    | (s, none) => l.run s rest
    | (s, some error) => (s, some error)

/-- Walks all statements. -/
def Arena.walk {σ ε : Type} (a : Arena) (l : Listener σ ε) (s : σ) : σ × Option ε :=
  l.run s a.events

end RowFilter.Syntax
