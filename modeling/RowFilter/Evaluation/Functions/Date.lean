import RowFilter.Evaluation.Call

/-!
Functions of dates and times, and the clock that they ask for the current one.
-/

namespace RowFilter

/-- The current time, in the local zone and in universal time. -/
structure Clock where
  localNow : Calendar.DateTime
  universalNow : Calendar.DateTime

namespace Call

def dateAdd (c : Call) : Except Error Value := do
  match ← c.dateTime? 0, ← c.integer? 1 with
  | some t, some amount =>
    match (← c.interval 2).add? t amount with
    | some later => return .dateTime later
    | none => throw (c.error .dateOutOfRange)
  | _, _ => return .undefined

def dateDiff (c : Call) : Except Error Value := do
  match ← c.dateTime? 0, ← c.dateTime? 1 with
  | some a, some b =>
    match Word.ofInt? .int32 ((← c.interval 2).between a b) with
    | some n => return .integer .int32 n
    | none => throw (c.error .differenceOutOfRange)
  | _, _ => return .undefined

def datePart (c : Call) : Except Error Value := do
  match ← c.dateTime? 0 with
  | some t => return .int32 ((← c.interval 1).part t)
  | none => return .undefined

end Call

end RowFilter
