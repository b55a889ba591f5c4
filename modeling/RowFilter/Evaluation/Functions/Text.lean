import RowFilter.Evaluation.Call
import RowFilter.Pattern.Search
import RowFilter.Text.CaseFold
import RowFilter.Text.Search

/-!
Functions of texts. An undefined text, or an undefined argument that the function cannot do
without, makes the result undefined. Positions and lengths count characters from zero.
-/

namespace RowFilter.Call

/-! ## Searching -/

/-- The text that a search runs on: in lowercase if case is to be passed over. -/
def searched (ignoreCase : Bool) (s : List Char) : List Char :=
  if ignoreCase then Text.lower s else s

/-- A position, or minus one. -/
def positionOrNone : Option Nat → Value
  | some i => .count i
  | none => .int32 (-1)

/-- The position of the `n`-th occurrence, counting from one. -/
def nthIndexOf? (needle text : List Char) (n : Int) : Option Nat :=
  if n < 1 ∨ needle = [] then none
  else (Text.occurrences (· == ·) needle text)[n.toNat - 1]?

def occurrenceCount (needle text : List Char) : Nat :=
  if needle = [] then 0 else (Text.occurrences (· == ·) needle text).length

/-- Looks for one text in another. -/
def searchFor (c : Call) (needle text : List Char) : Except Error Value :=
  match c.function with
  | .contains => .ok (.boolean (Text.indexOf? (· == ·) needle text).isSome)
  | .startsWith => .ok (.boolean (Text.startsWith (· == ·) needle text))
  | .endsWith => .ok (.boolean (Text.endsWith (· == ·) needle text))
  | .indexOf => .ok (positionOrNone (Text.indexOf? (· == ·) needle text))
  | .lastIndexOf => .ok (positionOrNone (Text.lastIndexOf? (· == ·) needle text))
  | .nthIndexOf => do
    match ← c.integer? 2 with
    | some n => return positionOrNone (nthIndexOf? needle text n)
    | none => return .undefined
  | _ => .ok (.count (occurrenceCount needle text))

/-- The position of the switch that makes a search pass over case. -/
def caseFlag (c : Call) : Nat :=
  if c.function = .nthIndexOf then 3 else 2

def search (c : Call) (source : List Char) : Except Error Value := do
  match ← c.string? 1 with
  | some needle =>
    let ignoreCase ← c.flag c.caseFlag
    c.searchFor (searched ignoreCase needle) (searched ignoreCase source)
  | none => return .undefined

/-! ## Parts -/

/-- The part of the text from a position on, of a given length or up to the end. -/
def subString (c : Call) (source : List Char) : Except Error Value := do
  match ← c.integer? 1 with
  | none => return .undefined
  | some start =>
    let length? ← c.integer? 2
    if start < 0 ∨ length?.any (· < 0) then throw (c.error .negativeIndex)
    let rest := source.drop start.toNat
    match length? with
    | some length => return .string (String.ofList (rest.take length.toNat))
    | none => return .string (String.ofList rest)

/-- How occurrences of a text are compared: up to case if the switch is on. Such a text is looked
for as a pattern, and must not take more room than one. -/
def sameness (c : Call) (needle : List Char) : Except Error (Char → Char → Bool) := do
  if ← c.flag 3 then
    if (Pattern.ofFoldedText needle).fits then return Text.sameFolded
    else throw (c.error (.badPattern PatternFault.tooLarge.message))
  else return (· == ·)

def replacement (c : Call) (source : List Char) : Except Error Value := do
  match ← c.string? 1, ← c.string? 2 with
  | some [], some _ => return .string (String.ofList source)
  | some needle, some text =>
    return .string (String.ofList (Text.replace (← c.sameness needle) needle text source))
  | _, _ => return .undefined

/-- One of the parts between delimiters; an empty delimiter does not divide the text. -/
def part (c : Call) (source : List Char) : Except Error Value := do
  match ← c.string? 1, ← c.integer? 2 with
  | some delimiter, some index =>
    let parts ←
      if delimiter.isEmpty then pure [source]
      else pure (Text.split (← c.sameness delimiter) delimiter source)
    if index < 0 then return .undefined
    match parts[index.toNat]? with
    | some part => return .string (String.ofList part)
    | none => return .undefined
  | _, _ => return .undefined

/-! ## Comparison and patterns -/

def ofOrdering : Ordering → Value
  | .lt => .int32 (-1)
  | .eq => .int32 0
  | .gt => .int32 1

def textComparison (c : Call) (source : List Char) : Except Error Value := do
  match ← c.string? 1 with
  | some other =>
    if ← c.flag 2 then return ofOrdering (Text.compareFolded source other)
    else return ofOrdering (Text.compareChars source other)
  | none => return .undefined

/-- Matches the first argument, a pattern, against the second. Whether it matches somewhere, or
the text of the first match. -/
def matching (c : Call) : Except Error Value := do
  match ← c.string? 0, ← c.string? 1 with
  | some pattern, some text =>
    match Pattern.compile pattern with
    | .error fault => throw (c.error (.badPattern fault.message))
    | .ok p =>
      let found? := p.firstMatch? text
      match c.function with
      | .regexMatch => return .boolean found?.isSome
      | _ => return .string (String.ofList (found?.getD []))
  | _, _ => return .undefined

/-! ## All functions of a text -/

def ofText (c : Call) (source : List Char) : Except Error Value :=
  match c.function with
  | .len => .ok (.count source.length)
  | .upper => .ok (.string (String.ofList (Text.upper source)))
  | .lower => .ok (.string (String.ofList (Text.lower source)))
  | .trim => .ok (.string (String.ofList (Text.trim source)))
  | .trimLeft => .ok (.string (String.ofList (Text.trimLeft source)))
  | .trimRight => .ok (.string (String.ofList (Text.trimRight source)))
  | .reverse => .ok (.string (String.ofList source.reverse))
  | .subStr => c.subString source
  | .replace => c.replacement source
  | .split => c.part source
  | .strCmp => c.textComparison source
  | _ => c.search source

/-- A function whose first argument is a text. -/
def text (c : Call) : Except Error Value := do
  match ← c.string? 0 with
  | some source => c.ofText source
  | none => return .undefined

end RowFilter.Call
