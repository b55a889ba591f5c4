import RowFilter.Error
import RowFilter.Guid

/-!
What is reported while expressions are bound and run: events in order, each with a level and a
message.
-/

namespace RowFilter

inductive LogEvent where
  | identifierResolved (identifier : String) (matched : Bool)
  | identifierSkipped (identifier : String)
  | treeBound (table : String) (topLimit : Int) (expression : String)
  | rowExcluded (table : String) (row : Nat) (error : Error)
  | statementEvaluated (table : String) (matched : Nat)
  | duplicateSkipped (signalId : Guid)
  /-- An error in the text of an expression, reported quietly or not. -/
  | reported (quiet : Bool) (expression : String) (error : Error)
deriving DecidableEq, Repr

inductive LogLevel where
  | error
  | debug
  | trace
deriving DecidableEq, Repr

namespace LogEvent

def level : LogEvent → LogLevel
  | identifierResolved .. | identifierSkipped _ | rowExcluded .. | duplicateSkipped _ => .trace
  | treeBound .. | statementEvaluated .. => .debug
  | reported quiet _ _ => if quiet then .debug else .error

def message : LogEvent → String
  | identifierResolved .. => "identifier statement resolved"
  | identifierSkipped _ => "identifier statement skipped, tracking is disabled"
  | treeBound .. => "expression tree bound"
  | rowExcluded .. => "row excluded"
  | statementEvaluated .. => "filter statement evaluated"
  | duplicateSkipped _ => "duplicate signal ID skipped"
  | reported _ _ error => error.message

end LogEvent

abbrev Log := List LogEvent

/-- A result with what was reported on the way to it. -/
abbrev Logged (α : Type) := Except Error α × Log

namespace Logged

variable {α β : Type}

/-- Goes on with a result; an error ends the work, and what was reported stays. -/
def andThen (x : Logged α) (f : α → Logged β) : Logged β :=
  match x with
  | (.ok a, log) => ((f a).1, log ++ (f a).2)
  | (.error e, log) => (.error e, log)

/-- Goes on with a result and reports nothing more. -/
def check (x : Logged α) (f : α → Except Error β) : Logged β :=
  x.andThen fun a => (f a, [])

end Logged

end RowFilter
