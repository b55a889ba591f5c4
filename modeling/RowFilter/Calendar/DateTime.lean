import RowFilter.Calendar.Date

/-!
A date with a time of day, to the nanosecond. A leap second is a second that lasts two: the
nanoseconds of the second before it run on past one second.
-/

namespace RowFilter.Calendar

def secondsPerDay : Int := 86400

def nanosPerSecond : Int := 1000000000

structure DateTime where
  date : Date
  /-- Seconds since midnight. -/
  second : Nat
  /-- Nanoseconds, from one second on those of a leap second. -/
  nano : Nat
  valid : second < 86400 ∧ nano < 2000000000
deriving DecidableEq

namespace DateTime

def of? (date : Date) (second nano : Nat) : Option DateTime :=
  if h : second < 86400 ∧ nano < 2000000000 then some ⟨date, second, nano, h⟩ else none

def midnight (date : Date) : DateTime := ⟨date, 0, 0, by decide⟩

def isLeapSecond (t : DateTime) : Bool := 1000000000 ≤ t.nano

def compare (a b : DateTime) : Ordering :=
  (a.date.compare b.date).then
    ((Ord.compare a.second b.second).then (Ord.compare a.nano b.nano))

/-- The moment a number of seconds and nanoseconds later, both of one sign or zero. A leap second
is left by its start when going back and by its end when going on. -/
def shift? (t : DateTime) (seconds nanos : Int) : Option DateTime :=
  let leap := nanosPerSecond ≤ t.nano
  if leap ∧ seconds = 0 ∧ t.nano + nanos < 2 * nanosPerSecond then
    of? t.date t.second (t.nano + nanos).toNat
  else
    let start : Int := if leap ∧ seconds < 0 then t.second + 1 else t.second
    let nano : Int := if leap then t.nano - nanosPerSecond else t.nano
    let total := nano + nanos
    let second := start + seconds + total / nanosPerSecond
    match t.date.addDays? (second / secondsPerDay) with
    | some date => of? date (second % secondsPerDay).toNat (total % nanosPerSecond).toNat
    | none => none

/-- The moment a number of nanoseconds later, or earlier. -/
def addNanos? (t : DateTime) (nanos : Int) : Option DateTime :=
  t.shift? (nanos.tdiv nanosPerSecond) (nanos.tmod nanosPerSecond)

/-- The same time of day, a number of months later. -/
def addMonths? (t : DateTime) (months : Int) : Option DateTime :=
  (t.date.addMonths? months).map fun date => { t with date := date }

/-- Nanoseconds from `a` to `b`. Of the two, the one earlier in its day counts its leap second
as a second that has passed. -/
def nanosBetween (a b : DateTime) : Int :=
  let days := b.date.dayNumber - a.date.dayNumber
  let leap : Int :=
    if a.second < b.second ∧ a.isLeapSecond then 1
    else if b.second < a.second ∧ b.isLeapSecond then -1
    else 0
  (days * secondsPerDay + (b.second - a.second) + leap) * nanosPerSecond + (b.nano - a.nano)

end DateTime

end RowFilter.Calendar
