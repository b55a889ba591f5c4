/-!
Dates of the Gregorian calendar, extended to all years. A date is a year, a month and a day; its
day number counts days, the first of January of the year one being day one, a Monday.
-/

namespace RowFilter.Calendar

/-! ## Years and months -/

def isLeap (year : Int) : Bool :=
  year % 4 = 0 && (year % 100 ≠ 0 || year % 400 = 0)

def daysInMonth (year : Int) (month : Nat) : Nat :=
  match month with
  | 2 => if isLeap year then 29 else 28
  | 4 | 6 | 9 | 11 => 30
  | _ => 31

def daysInYear (year : Int) : Nat :=
  if isLeap year then 366 else 365

/-- Days of a year before the first of a month. -/
def daysBeforeMonth (year : Int) : (month : Nat) → Nat
  | 0 | 1 => 0
  | month + 1 => daysBeforeMonth year month + daysInMonth year month

/-- Days before the first of January of a year, counted from the year one. -/
def daysBeforeYear (year : Int) : Int :=
  let y := year - 1
  365 * y + y / 4 - y / 100 + y / 400

/-- The first and the last year that a date can have. -/
def leastYear : Int := -262143

def greatestYear : Int := 262142

/-- The numbers name a day of the calendar within the range of years. -/
def IsDate (year : Int) (month day : Nat) : Prop :=
  (leastYear ≤ year ∧ year ≤ greatestYear) ∧ (1 ≤ month ∧ month ≤ 12) ∧
    1 ≤ day ∧ day ≤ daysInMonth year month

instance (year : Int) (month day : Nat) : Decidable (IsDate year month day) :=
  inferInstanceAs (Decidable (_ ∧ _))

/-! ## Dates -/

structure Date where
  year : Int
  month : Nat
  day : Nat
  valid : IsDate year month day
deriving DecidableEq

namespace Date

def of? (year : Int) (month day : Nat) : Option Date :=
  if h : IsDate year month day then some ⟨year, month, day, h⟩ else none

/-- The position of the day in its year, from one. -/
def ordinal (d : Date) : Nat := daysBeforeMonth d.year d.month + d.day

def dayNumber (d : Date) : Int := daysBeforeYear d.year + d.ordinal

/-- Days since Sunday. -/
def weekday (d : Date) : Nat := (d.dayNumber % 7).toNat

/-- The week of the year, weeks starting on Sunday and the first one holding January 1. -/
def week (d : Date) : Nat :=
  let firstWeekday := ((daysBeforeYear d.year + 1) % 7).toNat
  (d.ordinal - 1 + firstWeekday) / 7 + 1

def compare (a b : Date) : Ordering :=
  (Ord.compare a.year b.year).then
    ((Ord.compare a.month b.month).then (Ord.compare a.day b.day))

/-- The year a day number lies in. The mean length of a year gives it up to one. -/
def yearOfDay (n : Int) : Int :=
  let guess := 400 * (n - 1) / 146097 + 1
  if n ≤ daysBeforeYear guess then guess - 1
  else if daysBeforeYear (guess + 1) < n then guess + 1
  else guess

/-- The month and the day of the month of the `ordinal`-th day, looking at `month` and at most
`rest` months after it. -/
def monthOfOrdinal (year : Int) (month ordinal : Nat) : (rest : Nat) → Nat × Nat
  | 0 => (month, ordinal)
  | rest + 1 =>
    if ordinal ≤ daysInMonth year month then (month, ordinal)
    else monthOfOrdinal year (month + 1) (ordinal - daysInMonth year month) rest

/-- The date of a day number, if its year is in range. -/
def ofDayNumber? (n : Int) : Option Date :=
  let year := yearOfDay n
  let (month, day) := monthOfOrdinal year 1 (n - daysBeforeYear year).toNat 11
  of? year month day

/-- The date a number of days later, or earlier. -/
def addDays? (d : Date) (days : Int) : Option Date :=
  ofDayNumber? (d.dayNumber + days)

/-- The date a number of months later, or earlier; the day is clipped to the month's length. -/
def addMonths? (d : Date) (months : Int) : Option Date :=
  let total := 12 * d.year + (d.month - 1 : Nat) + months
  let year := total / 12
  let month := (total % 12).toNat + 1
  of? year month (min d.day (daysInMonth year month))

end Date

end RowFilter.Calendar
