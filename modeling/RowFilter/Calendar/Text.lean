import RowFilter.Calendar.DateTime
import RowFilter.Number.Double
import RowFilter.Text.Blank

/-!
The text of dates and times, and the layouts in which they are read.
-/

namespace RowFilter.Calendar

/-! ## Writing -/

/-- The digits of a number, with zeros in front up to a width. -/
def padded (width n : Nat) : List Char :=
  let ds := Nat.toDigits 10 n
  List.replicate (width - ds.length) '0' ++ ds

/-- Four digits for the years 0 to 9999; any other year has a sign and at least four digits. -/
def yearText (year : Int) : List Char :=
  if 0 ≤ year ∧ year ≤ 9999 then padded 4 year.toNat
  else (if year < 0 then '-' else '+') :: padded 4 year.natAbs

/-- Nothing for a whole second, else a point and as many groups of three digits as are exact. -/
def fractionText (nano : Nat) : List Char :=
  if nano = 0 then []
  else if nano % 1000000 = 0 then '.' :: padded 3 (nano / 1000000)
  else if nano % 1000 = 0 then '.' :: padded 6 (nano / 1000)
  else '.' :: padded 9 nano

def Date.text (d : Date) : List Char :=
  yearText d.year ++ '-' :: padded 2 d.month ++ '-' :: padded 2 d.day

/-- The time of day. A leap second is written as the sixtieth. -/
def DateTime.timeText (t : DateTime) : List Char :=
  padded 2 (t.second / 3600) ++ ':' :: padded 2 (t.second / 60 % 60) ++
    ':' :: padded 2 (t.second % 60 + t.nano / 1000000000) ++ fractionText (t.nano % 1000000000)

/-- The date and the time with a separator between them. -/
def DateTime.textWith (separator : Char) (t : DateTime) : List Char :=
  t.date.text ++ separator :: t.timeText

def DateTime.text (t : DateTime) : List Char :=
  t.textWith ' '

/-! ## Reading -/

/-- Numbers read from a text before they are known to make up a date and a time. -/
structure Fields where
  year : Int := 0
  month : Nat := 0
  day : Nat := 0
  hour : Nat := 0
  minute : Nat := 0
  second : Nat := 0
  nano : Nat := 0
deriving DecidableEq, Repr

/-- The sixtieth second stands for a leap second after the one before it. -/
def Fields.toDateTime? (f : Fields) : Option DateTime :=
  if f.hour < 24 ∧ f.minute < 60 ∧ f.second ≤ 60 then
    let leap := f.second = 60
    let second := if leap then 59 else f.second
    let nano := if leap then f.nano + 1000000000 else f.nano
    (Date.of? f.year f.month f.day).bind fun date =>
      DateTime.of? date (f.hour * 3600 + f.minute * 60 + second) nano
  else none

/-- Reads a number of at least one and at most `width` digits; the rest of the text follows. -/
def readNumber? (width : Nat) (s : List Char) : Option (Nat × List Char) :=
  let ds := (s.take width).takeWhile Char.isDigit
  if ds.isEmpty then none else some (Double.natOfDigits ds, s.drop ds.length)

/-- Reads exactly `width` digits. -/
def readFixed? (width : Nat) (s : List Char) : Option (Nat × List Char) :=
  let ds := s.take width
  if ds.length = width ∧ ds.all Char.isDigit then some (Double.natOfDigits ds, s.drop width)
  else none

/-- Reads a year: up to four digits, or any number of digits after a sign. -/
def readYear? (s : List Char) : Option (Int × List Char) :=
  match s with
  | '+' :: r => (readNumber? r.length r).map fun (n, rest) => ((n : Int), rest)
  | '-' :: r => (readNumber? r.length r).map fun (n, rest) => (-(n : Int), rest)
  | s => (readNumber? 4 s).map fun (n, rest) => ((n : Int), rest)

/-- Reads the digits after a point as nanoseconds; digits past the ninth are passed over. -/
def readNanos? (s : List Char) : Option (Nat × List Char) :=
  let ds := s.takeWhile Char.isDigit
  if ds.isEmpty then none
  else
    let nine := ds.take 9
    some (Double.natOfDigits nine * tenTo (9 - nine.length), s.drop ds.length)

/-- A part of a layout. -/
inductive Piece where
  | year
  | month
  | day
  | hour
  | minute
  | second
  /-- A point and digits, or nothing. -/
  | fraction
  /-- Any number of blanks. -/
  | blanks
  | mark (c : Char)
deriving DecidableEq, Repr

namespace Piece

/-- Reads one part. A number may have blanks before it. -/
def read? (f : Fields) (s : List Char) : Piece → Option (Fields × List Char)
  | year => (readYear? (Text.trimLeft s)).map fun (n, r) => ({ f with year := n }, r)
  | month => (readNumber? 2 (Text.trimLeft s)).map fun (n, r) => ({ f with month := n }, r)
  | day => (readNumber? 2 (Text.trimLeft s)).map fun (n, r) => ({ f with day := n }, r)
  | hour => (readNumber? 2 (Text.trimLeft s)).map fun (n, r) => ({ f with hour := n }, r)
  | minute => (readNumber? 2 (Text.trimLeft s)).map fun (n, r) => ({ f with minute := n }, r)
  | second => (readNumber? 2 (Text.trimLeft s)).map fun (n, r) => ({ f with second := n }, r)
  | fraction =>
    match s with
    | '.' :: r => (readNanos? r).map fun (n, rest) => ({ f with nano := n }, rest)
    | s => some (f, s)
  | blanks => some (f, Text.trimLeft s)
  | mark c =>
    match s with
    | d :: r => if c = d then some (f, r) else none
    | [] => none

/-- Reads the parts of a layout one after the other. -/
def readAll? : List Piece → Fields → List Char → Option (Fields × List Char)
  | [], f, s => some (f, s)
  | p :: ps, f, s => (p.read? f s).bind fun (f, s) => readAll? ps f s

def isoDate : List Piece := [year, mark '-', month, mark '-', day]

def slashDate : List Piece := [month, mark '/', day, mark '/', year]

def fullTime : List Piece := [hour, mark ':', minute, mark ':', second, fraction]

def shortTime : List Piece := [hour, mark ':', minute]

end Piece

open Piece in
/-- The layouts in the order in which they are tried. A date alone stands for its midnight. -/
def layouts : List (List Piece) := [
  isoDate ++ blanks :: fullTime,
  isoDate ++ mark 'T' :: fullTime,
  isoDate ++ blanks :: shortTime,
  slashDate ++ blanks :: fullTime,
  slashDate ++ blanks :: shortTime,
  isoDate,
  slashDate]

/-- Reads the whole of a text by a layout. -/
def readLayout? (s : List Char) (layout : List Piece) : Option DateTime :=
  match Piece.readAll? layout {} s with
  | some (f, []) => f.toDateTime?
  | _ => none

/-- Reads the offset of a local time from universal time, in seconds: `Z` or a sign, hours and
minutes. -/
def readOffset? : List Char → Option Int
  | ['Z'] | ['z'] => some 0
  | sign :: r =>
    let negative := sign = '-' || sign = '−'
    if sign = '+' || negative then
      match readFixed? 2 r with
      | some (hours, ':' :: r) =>
        match readFixed? 2 r with
        | some (minutes, []) =>
          if hours < 24 ∧ minutes < 60 then
            some (Double.signed negative (hours * 3600 + minutes * 60))
          else none
        | _ => none
      | _ => none
    else none
  | [] => none

/-- Reads a time with an offset, all fields at their full width, and gives the universal time. -/
def readWithOffset? (s : List Char) : Option DateTime := do
  let (year, s) ← readFixed? 4 s
  let s ← skip? (· = '-') s
  let (month, s) ← readFixed? 2 s
  let s ← skip? (· = '-') s
  let (day, s) ← readFixed? 2 s
  let s ← skip? (fun c => c = 'T' || c = 't' || c = ' ') s
  let (hour, s) ← readFixed? 2 s
  let s ← skip? (· = ':') s
  let (minute, s) ← readFixed? 2 s
  let s ← skip? (· = ':') s
  let (second, s) ← readFixed? 2 s
  let (nano, s) ← match s with
    | '.' :: r => readNanos? r
    | s => some (0, s)
  let offset ← readOffset? s
  let t ← Fields.toDateTime? { year, month, day, hour, minute, second, nano }
  let seconds := t.second - offset
  let date ← t.date.addDays? (seconds / secondsPerDay)
  DateTime.of? date (seconds % secondsPerDay).toNat t.nano
where
  skip? (p : Char → Bool) : List Char → Option (List Char)
    | c :: s => if p c then some s else none
    | [] => none

/-- Reads a date and time in the first layout that fits the whole text. -/
def DateTime.read? (s : List Char) : Option DateTime :=
  let s := Text.trim s
  (layouts.findSome? (readLayout? s)).or (readWithOffset? s)

end RowFilter.Calendar
