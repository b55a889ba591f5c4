import RowFilter.Calendar.DateTime
import RowFilter.Text.Blank
import RowFilter.Text.CaseMap

/-!
Intervals of the calendar and of the clock: adding a number of them to a moment, counting them
between two moments, and the part of a moment that they name.
-/

namespace RowFilter.Calendar

inductive Interval where
  | year
  | month
  | dayOfYear
  | day
  | week
  | weekday
  | hour
  | minute
  | second
  | millisecond
deriving DecidableEq, Repr

namespace Interval

/-- Reads a name, with blanks around it and in any case. -/
def read? (s : String) : Option Interval :=
  match String.ofList (Text.lowerAscii (Text.trim s.toList)) with
  | "year" => some year
  | "month" => some month
  | "dayofyear" => some dayOfYear
  | "day" => some day
  | "week" => some week
  | "weekday" => some weekday
  | "hour" => some hour
  | "minute" => some minute
  | "second" => some second
  | "millisecond" => some millisecond
  | _ => none

/-- How an interval is measured: by the calendar, in months, or by the clock, in nanoseconds. -/
inductive Measure where
  | months (count : Int)
  | nanos (count : Int)

def measure : Interval → Measure
  | year => .months 12
  | month => .months 1
  | dayOfYear | day | weekday => .nanos (86400 * 1000000000)
  | week => .nanos (7 * 86400 * 1000000000)
  | hour => .nanos (3600 * 1000000000)
  | minute => .nanos (60 * 1000000000)
  | second => .nanos 1000000000
  | millisecond => .nanos 1000000

/-- The moment `amount` intervals later, or earlier, if the calendar has it. -/
def add? (i : Interval) (t : DateTime) (amount : Int) : Option DateTime :=
  match i.measure with
  | .months count => t.addMonths? (amount * count)
  | .nanos count => t.addNanos? (amount * count)

/-- Months of the calendar since the year zero. -/
def monthNumber (d : Date) : Int := d.year * 12 + d.month

/-- How many intervals lie between two moments: whole ones that have passed by the clock; by the
calendar, the difference of the years or of the months. -/
def between (i : Interval) (a b : DateTime) : Int :=
  match i with
  | year => b.date.year - a.date.year
  | month => monthNumber b.date - monthNumber a.date
  | i =>
    match i.measure with
    | .months _ => 0
    | .nanos count => (a.nanosBetween b).tdiv count

/-- The part of a moment; weekdays count from one for Sunday. -/
def part (i : Interval) (t : DateTime) : Int :=
  match i with
  | year => t.date.year
  | month => t.date.month
  | dayOfYear => t.date.ordinal
  | day => t.date.day
  | week => t.date.week
  | weekday => t.date.weekday + 1
  | hour => t.second / 3600
  | minute => t.second / 60 % 60
  | second => t.second % 60
  | millisecond => t.nano / 1000000

end Interval

end RowFilter.Calendar
