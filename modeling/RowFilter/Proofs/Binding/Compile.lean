import RowFilter.Binding.Bind
import RowFilter.Proofs.Outcome

/-!
Binding by recursion on the syntax: every term is compiled out of its compiled parts, from left to
right, every statement on its own, and the first error ends the work. There is no walk and nothing
is kept between the nodes.
-/

namespace RowFilter

/-- What statements contribute, one list behind the other. -/
def Bound.append (b c : Bound) : Bound := ⟨b.trees ++ c.trees, b.named ++ c.named⟩

theorem Bound.append_empty (b : Bound) : b.append ⟨[], []⟩ = b := by
  rw [append, List.append_nil, List.append_nil]

theorem Bound.empty_append (b : Bound) : (⟨[], []⟩ : Bound).append b = b := rfl

theorem Bound.append_assoc (b c d : Bound) : (b.append c).append d = b.append (c.append d) := by
  rw [append, append, append, append, List.append_assoc, List.append_assoc]

namespace Syntax

namespace Term

mutual

/-- The expression of a term whose columns are those of a table. The arguments of a call come
before its name. -/
def compile (t : Table) : Term → Except Error Expression
  | .literal _ l => do return .value (← l.value)
  | .column _ name => do return .column (← t.resolve name)
  | .call _ name arguments => do
    let es ← compileAll t arguments
    let f ← Binding.calledFunction name arguments.length
    return .function f es
  | .unary _ op operand => do return .unary op (← operand.compile t)
  | .not _ operand => do return .unary .not (← operand.compile t)
  | .binary _ op left right | .predicate _ op left right | .logical _ op left right => do
    let l ← left.compile t
    let r ← right.compile t
    return .operator op l r
  | .inList _ operand items negated exact => do
    let e ← operand.compile t
    let es ← compileAll t items
    return .inList e es negated exact
  | .isNull _ operand negated => do return .isNull (← operand.compile t) negated

def compileAll (t : Table) : List Term → Except Error (List Expression)
  | [] => .ok []
  | e :: rest => do
    let first ← e.compile t
    let others ← compileAll t rest
    return first :: others

end

end Term

namespace Statement

variable (scope : Scope) (options : Options)

/-- The tree of an expression statement, which refers to the primary table. -/
def expressionTree (e : Term) : Except Error ExpressionTree := do
  let t ← scope.primaryTable options.primaryTable
  let root ← e.compile t
  return { ExpressionTree.ofTable t.name with root := some root }

/-- The tree of a FILTER statement. Its order is resolved before its condition. -/
def filterTree (clause : FilterClause) (condition : Term) : Except Error ExpressionTree := do
  let t ← scope.filterTable clause.table
  let order ← Binding.orderTerms t clause.orderBy
  let root ← condition.compile t
  return ⟨t.name, clause.topLimit.getD (-1), order, some root⟩

/-- What an identifier statement names, and whether by a row. -/
def matched (i : Identifier) : Except Error (Match × Bool) := do
  let t ← scope.primaryTable options.primaryTable
  i.resolve t (options.idFieldsOf t.name)

/-- What an identifier statement contributes: nothing if nothing is tracked. -/
def named (i : Identifier) : Logged Bound :=
  if !options.trackRows && !options.trackSignalIds then
    (.ok ⟨[], []⟩, [.identifierSkipped i.text])
  else
    match matched scope options i with
    | .ok (found, isRow) =>
      (.ok ⟨[], if found.isKnown then [found] else []⟩, [.identifierResolved i.text isRow])
    | .error e => (.error e, [])

/-- A statement with a tree contributes it. -/
def ofTree : Except Error ExpressionTree → Logged Bound
  | .ok tree => (.ok ⟨[tree], []⟩, [.treeBound tree.table tree.topLimit tree.text])
  | .error e => (.error e, [])

/-- What a statement contributes. -/
def compile : Statement → Logged Bound
  | .identifier _ i => named scope options i
  | .filter _ clause condition => ofTree (filterTree scope clause condition)
  | .expression _ e => ofTree (expressionTree scope options e)

/-- What statements contribute together, in their order. -/
def compileAll : List Statement → Logged Bound
  | [] => (.ok ⟨[], []⟩, [])
  | s :: rest =>
    (s.compile scope options).andThen fun own =>
      (compileAll rest).check fun more => .ok (own.append more)

end Statement

def Document.compile (d : Document) (scope : Scope) (options : Options) : Logged Bound :=
  Statement.compileAll scope options d.statements

end Syntax

/-! ## What compiling blames -/

/-- Errors that say that binding has lost track of its own state. -/
def Error.IsInternal : Error → Prop
  | .bind (.notBuilt _) | .bind .noTableInScope => True
  | _ => False

/-- Errors of binding that the names, literals or calls of the text are to blame for. -/
def Error.BlamesText (e : Error) : Prop :=
  (∃ fault, e = .bind fault) ∧ ¬ e.IsInternal

open Syntax

theorem fails_literal (l : Literal) : Fails Error.BlamesText l.value := by
  -- a literal that has no value is one whose text does not read as one
  have hrequired (text what : String) (v : Option Value) :
      Fails Error.BlamesText (Literal.required text what v) := by
    cases v with
    | none => exact fails_error ⟨⟨_, rfl⟩, not_false⟩
    | some v => exact fails_ok v
  cases l with
  | null | boolean | string | measurementKey | pointTag => exact fails_ok _
  | integer | numeric | guid | dateTime => exact hrequired _ _ _

theorem fails_resolve (t : Table) (name : String) : Fails Error.BlamesText (t.resolve name) := by
  unfold Table.resolve
  split
  · exact fails_ok _
  · exact fails_error ⟨⟨_, rfl⟩, not_false⟩

theorem fails_calledFunction (name : String) (received : Nat) :
    Fails Error.BlamesText (Binding.calledFunction name received) := by
  unfold Binding.calledFunction
  split
  · exact fails_error ⟨⟨_, rfl⟩, not_false⟩
  · split
    · exact fails_ok _
    · exact fails_error ⟨⟨_, rfl⟩, not_false⟩

theorem fails_primaryTable (scope : Scope) (name : Option String) :
    Fails Error.BlamesText (scope.primaryTable name) := by
  unfold Scope.primaryTable
  split
  · exact fails_ok _
  · exact fails_error ⟨⟨_, rfl⟩, not_false⟩
  · exact fails_error ⟨⟨_, rfl⟩, not_false⟩

theorem fails_filterTable (scope : Scope) (name : String) :
    Fails Error.BlamesText (scope.filterTable name) := by
  unfold Scope.filterTable
  split
  · exact fails_ok _
  · exact fails_error ⟨⟨_, rfl⟩, not_false⟩

theorem fails_orderTerms (t : Table) (order : List OrderingTerm) :
    Fails Error.BlamesText (Binding.orderTerms t order) := by
  induction order with
  | nil => exact fails_ok _
  | cons term order ih =>
    exact (fails_resolve t term.column).bind fun _ => ih.bind fun _ => fails_ok _

mutual

theorem fails_compile (t : Table) (e : Term) : Fails Error.BlamesText (e.compile t) := by
  match e with
  | .literal _ l => exact (fails_literal l).bind fun _ => fails_ok _
  | .column _ name => exact (fails_resolve t name).bind fun _ => fails_ok _
  | .call _ name arguments =>
    exact (fails_compileAll t arguments).bind fun _ =>
      (fails_calledFunction name arguments.length).bind fun _ => fails_ok _
  | .unary _ op operand => exact (fails_compile t operand).bind fun _ => fails_ok _
  | .not _ operand => exact (fails_compile t operand).bind fun _ => fails_ok _
  | .binary _ op left right | .predicate _ op left right | .logical _ op left right =>
    exact (fails_compile t left).bind fun _ => (fails_compile t right).bind fun _ => fails_ok _
  | .inList _ operand items negated exact =>
    exact (fails_compile t operand).bind fun _ =>
      (fails_compileAll t items).bind fun _ => fails_ok _
  | .isNull _ operand negated => exact (fails_compile t operand).bind fun _ => fails_ok _

theorem fails_compileAll (t : Table) (es : List Term) :
    Fails Error.BlamesText (Term.compileAll t es) := by
  match es with
  | [] => exact fails_ok _
  | e :: rest =>
    exact (fails_compile t e).bind fun _ => (fails_compileAll t rest).bind fun _ => fails_ok _

end

/-! ## What statements fail with -/

/-- Errors that the text is to blame for, or the columns that are said to identify rows. -/
def Error.BlamesRequest (e : Error) : Prop :=
  e.BlamesText ∨ ∃ fault, e = .configuration fault

theorem Fails.ofText {α : Type} {x : Except Error α} (h : Fails Error.BlamesText x) :
    Fails Error.BlamesRequest x :=
  h.mono fun _ he => .inl he

theorem fails_fieldColumn (t : Table) (field : String) :
    Fails Error.BlamesRequest (Identifier.fieldColumn t field) := by
  unfold Identifier.fieldColumn
  split
  · exact fails_ok _
  · exact fails_error (.inr ⟨_, rfl⟩)

theorem fails_target (i : Identifier) (t : Table) (fields : IdFields) (signalIds : Nat) :
    Fails Error.BlamesRequest (i.target t fields signalIds) := by
  unfold Identifier.target
  split
  · split
    · exact fails_ok _
    · exact fails_error (.inl ⟨⟨_, rfl⟩, not_false⟩)
  · exact (fails_fieldColumn t fields.measurementKey).bind fun _ => fails_ok _
  · exact (fails_fieldColumn t fields.pointTag).bind fun _ => fails_ok _

theorem fails_identifier (i : Identifier) (t : Table) (fields : IdFields) :
    Fails Error.BlamesRequest (i.resolve t fields) := by
  refine (fails_fieldColumn t fields.signalId).bind fun signalIds => ?_
  refine (fails_target i t fields signalIds).bind fun target => ?_
  split <;> exact fails_ok _

theorem fails_ofTree {P : Error → Prop} {tree : Except Error ExpressionTree} (h : Fails P tree) :
    Fails P (Statement.ofTree tree).1 := by
  cases tree with
  | ok tree => exact fails_ok _
  | error e => exact fails_error (h e rfl)

variable (scope : Scope) (options : Options)

theorem fails_named (i : Identifier) :
    Fails Error.BlamesRequest (Statement.named scope options i).1 := by
  have hmatched : Fails Error.BlamesRequest (Statement.matched scope options i) :=
    (fails_primaryTable scope options.primaryTable).ofText.bind fun t => fails_identifier i t _
  unfold Statement.named
  split
  · exact fails_ok _
  · split
    · exact fails_ok _
    · next e he => exact fails_error (hmatched e he)

theorem fails_statement (s : Statement) :
    Fails Error.BlamesRequest (s.compile scope options).1 := by
  cases s with
  | identifier _ i => exact fails_named scope options i
  | filter _ clause condition =>
    apply fails_ofTree
    apply Fails.ofText
    exact (fails_filterTable scope clause.table).bind fun t =>
      (fails_orderTerms t clause.orderBy).bind fun _ =>
        (fails_compile t condition).bind fun _ => fails_ok _
  | expression _ e =>
    apply fails_ofTree
    apply Fails.ofText
    exact (fails_primaryTable scope options.primaryTable).bind fun t =>
      (fails_compile t e).bind fun _ => fails_ok _

theorem fails_statements (list : List Statement) :
    Fails Error.BlamesRequest (Statement.compileAll scope options list).1 := by
  induction list with
  | nil => exact fails_ok _
  | cons s list ih =>
    exact (fails_statement scope options s).andThen fun _ => ih.andThen fun _ => fails_ok _

/-- Compiling statements never ends in an internal error. -/
theorem sound_statements (list : List Statement) :
    Fails (fun e => ¬ e.IsInternal) (Statement.compileAll scope options list).1 := by
  refine (fails_statements scope options list).mono fun e he => ?_
  rcases he with he | ⟨fault, rfl⟩
  · exact he.2
  · exact not_false

end RowFilter
