import RowFilter.Text.CaseMap

/-!
The catalog of built-in functions: names and the numbers of arguments they take.
-/

namespace RowFilter

inductive Function where
  | abs
  | ceiling
  | coalesce
  | contains
  | convert
  | dateAdd
  | dateDiff
  | datePart
  | endsWith
  | floor
  | iif
  | indexOf
  | isDate
  | isGuid
  | isInteger
  | isNull
  | isNumeric
  | lastIndexOf
  | len
  | lower
  | maxOf
  | minOf
  | now
  | nthIndexOf
  | power
  | regexMatch
  | regexVal
  | replace
  | reverse
  | round
  | split
  | sqrt
  | startsWith
  | strCmp
  | strCount
  | subStr
  | trim
  | trimLeft
  | trimRight
  | upper
  | utcNow
deriving DecidableEq, Repr

/-- How many arguments a function takes: at least `least`, and at most `most` if there is a
limit. -/
structure Arity where
  least : Nat
  most : Option Nat
deriving DecidableEq, Repr

namespace Arity

def exactly (n : Nat) : Arity := ⟨n, some n⟩

def between (m n : Nat) : Arity := ⟨m, some n⟩

def atLeast (n : Nat) : Arity := ⟨n, none⟩

def accepts (a : Arity) (count : Nat) : Bool :=
  a.least ≤ count && a.most.all (count ≤ ·)

def text (a : Arity) : String :=
  match a.most with
  | some most => if a.least = most then toString a.least else s!"{a.least} to {most}"
  | none => s!"at least {a.least}"

end Arity

namespace Function

/-- All functions, in the order of their names. -/
def all : List Function := [
  abs, ceiling, coalesce, contains, convert, dateAdd, dateDiff, datePart, endsWith, floor, iif,
  indexOf, isDate, isGuid, isInteger, isNull, isNumeric, lastIndexOf, len, lower, maxOf, minOf,
  now, nthIndexOf, power, regexMatch, regexVal, replace, reverse, round, split, sqrt, startsWith,
  strCmp, strCount, subStr, trim, trimLeft, trimRight, upper, utcNow]

def name : Function → String
  | abs => "ABS"
  | ceiling => "CEILING"
  | coalesce => "COALESCE"
  | contains => "CONTAINS"
  | convert => "CONVERT"
  | dateAdd => "DATEADD"
  | dateDiff => "DATEDIFF"
  | datePart => "DATEPART"
  | endsWith => "ENDSWITH"
  | floor => "FLOOR"
  | iif => "IIF"
  | indexOf => "INDEXOF"
  | isDate => "ISDATE"
  | isGuid => "ISGUID"
  | isInteger => "ISINTEGER"
  | isNull => "ISNULL"
  | isNumeric => "ISNUMERIC"
  | lastIndexOf => "LASTINDEXOF"
  | len => "LEN"
  | lower => "LOWER"
  | maxOf => "MAXOF"
  | minOf => "MINOF"
  | now => "NOW"
  | nthIndexOf => "NTHINDEXOF"
  | power => "POWER"
  | regexMatch => "REGEXMATCH"
  | regexVal => "REGEXVAL"
  | replace => "REPLACE"
  | reverse => "REVERSE"
  | round => "ROUND"
  | split => "SPLIT"
  | sqrt => "SQRT"
  | startsWith => "STARTSWITH"
  | strCmp => "STRCMP"
  | strCount => "STRCOUNT"
  | subStr => "SUBSTR"
  | trim => "TRIM"
  | trimLeft => "TRIMLEFT"
  | trimRight => "TRIMRIGHT"
  | upper => "UPPER"
  | utcNow => "UTCNOW"

def arity : Function → Arity
  | now | utcNow => .exactly 0
  | abs | ceiling | floor | round | sqrt => .exactly 1
  | isDate | isGuid | isInteger | isNumeric => .exactly 1
  | len | lower | reverse | trim | trimLeft | trimRight | upper => .exactly 1
  | convert | datePart | isNull | power | regexMatch | regexVal => .exactly 2
  | dateAdd | dateDiff | iif => .exactly 3
  | contains | endsWith | indexOf | lastIndexOf | startsWith | strCmp | strCount => .between 2 3
  | subStr => .between 2 3
  | nthIndexOf | replace | split => .between 3 4
  | coalesce | maxOf | minOf => .atLeast 2

/-- The function that goes by a name in any case. -/
def ofName? (s : String) : Option Function :=
  all.find? fun f => Text.lowerAscii f.name.toList == Text.lowerAscii s.toList

theorem mem_all (f : Function) : f ∈ all := by
  cases f <;> decide

end Function

end RowFilter
