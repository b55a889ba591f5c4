import RowFilter.Query
import RowFilter.Session.Track

/-!
Sessions: a filter expression that is run over a data set, possibly many times, with options that
may change between the runs. A run gives the tracked rows and signal IDs and the trees of the
expression; what an earlier run gave is gone once the expression is looked at again.
-/

namespace RowFilter

structure Session where
  expression : String
  options : Options
  dataSet : Option DataSet
  /-- Who is told of errors in the expression. -/
  subscriber : Option String
  tracked : Tracked
  trees : List ExpressionTree

/-- What a subscriber is told. -/
structure Notice where
  subscriber : String
  expression : String
  message : String
deriving DecidableEq, Repr

namespace Session

def create (expression : String) (options : Options) : Session :=
  ⟨expression, options, none, none, .empty, []⟩

/-! ## Settings -/

def setDataSet (s : Session) (d : DataSet) : Session :=
  { s with dataSet := some d }

def setPrimaryTable (s : Session) (name : String) : Session :=
  { s with options := { s.options with primaryTable := some name } }

def setIdFields (s : Session) (table : String) (fields : IdFields) : Session :=
  { s with options := s.options.setIdFields table fields }

def setTrackSignalIds (s : Session) (on : Bool) : Session :=
  { s with options := { s.options with trackSignalIds := on } }

def setTrackRows (s : Session) (on : Bool) : Session :=
  { s with options := { s.options with trackRows := on } }

def setQuiet (s : Session) (on : Bool) : Session :=
  { s with options := { s.options with quiet := on } }

/-- Subscribes to the errors in the expression, in place of who was subscribed before. -/
def subscribe (s : Session) (subscriber : String) : Session :=
  { s with subscriber := some subscriber }

/-! ## Running -/

/-- A tree with the table that it selects from and the column of signal IDs. -/
structure Source where
  tree : ExpressionTree
  table : Table
  signalIds : Nat

/-- The table of a tree, which has to have a column of signal IDs. -/
def source (options : Options) (d : DataSet) (tree : ExpressionTree) : Except Error Source :=
  match d.table? tree.table with
  | none => .error (.bind (.noTable tree.table))
  | some t =>
    let field := (options.idFieldsOf t.name).signalId
    match t.column? field with
    | some (index, _) => .ok ⟨tree, t, index⟩
    | none => .error (.configuration (.noSignalIdField field t.name))

/-- The sources of all trees, or the error of the first that has none. -/
def sources (options : Options) (d : DataSet) : List ExpressionTree → Except Error (List Source)
  | [] => .ok []
  | tree :: rest => do
    let first ← source options d tree
    return first :: (← sources options d rest)

/-- The match that a selected row is. -/
def Source.matchOf (s : Source) (row : Row) : Match :=
  ⟨(row.cell s.signalIds).signalId?, some ⟨s.table.name, row⟩⟩

/-- The matches of a tree. -/
def Source.select (s : Source) (clock : Clock) : Logged (List Match) :=
  (s.tree.select clock s.table).andThen fun rows =>
    (.ok (rows.map s.matchOf), [.statementEvaluated s.table.name rows.length])

/-- The matches of all trees in order. -/
def selectAll (clock : Clock) : List Source → Logged (List Match)
  | [] => (.ok [], [])
  | s :: rest =>
    (s.select clock).andThen fun first =>
      (selectAll clock rest).check fun others => .ok (first ++ others)

/-- What a run leads to: the session after it, its outcome, what was reported and who was told. -/
structure Run where
  session : Session
  outcome : Except Error Unit
  log : Log
  notices : List Notice

/-- A run that is not begun. -/
def refuse (s : Session) (fault : UseFault) : Run :=
  ⟨s, .error (.use fault), [], []⟩

/-- The session without what an earlier run gave. -/
def clear (s : Session) : Session :=
  { s with tracked := .empty, trees := [] }

/-- A run that ends with an error, of which the subscriber is not told. -/
def fail (s : Session) (log : Log) (e : Error) : Run :=
  ⟨s.clear, .error e, log, []⟩

/-- A run that ends with an error in the expression or its configuration, which is reported and
told to the subscriber. -/
def report (s : Session) (log : Log) (e : Error) : Run :=
  ⟨s.clear, .error e, log ++ [.reported s.options.quiet s.expression e],
    s.subscriber.toList.map fun who => ⟨who, s.expression, e.message⟩⟩

/-- Goes on with the bound statements: all sources are found before any row is looked at. -/
def runBound (s : Session) (clock : Clock) (d : DataSet) (bound : Bound) (log : Log) : Run :=
  match sources s.options d bound.trees with
  | .error (.bind fault) => s.fail log (.bind fault)
  | .error e => s.report log e
  | .ok list =>
    match selectAll clock list with
    | (.error e, more) => s.fail (log ++ more) e
    | (.ok found, more) =>
      let tracking := Tracking.run s.options (bound.named ++ found)
      ⟨{ s with tracked := tracking.tracked, trees := bound.trees }, .ok (),
        log ++ more ++ tracking.log, []⟩

/-- Runs the expression over the data set. -/
def run (s : Session) (clock : Clock) : Run :=
  match s.dataSet with
  | none => s.refuse .noDataSet
  | some d =>
    if !s.options.trackRows && !s.options.trackSignalIds then s.refuse .nothingTracked
    else
      match bindText s.expression (.dataSet d) s.options with
      | (.error e, log) => s.report log e
      | (.ok bound, log) => s.runBound clock d bound log

end Session

end RowFilter
