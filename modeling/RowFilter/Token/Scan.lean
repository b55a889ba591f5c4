import RowFilter.Guid
import RowFilter.Text.Blank
import RowFilter.Token.Basic

/-!
Where tokens and the gaps between them end. Every function here looks at the start of a text and
gives the number of characters that belong together.
-/

namespace RowFilter.Token

/-! ## Characters -/

/-- Letters that may begin a word. -/
def isWordStart (c : Char) : Bool :=
  c.isAlpha || c = '_'

def isWordChar (c : Char) : Bool :=
  c.isAlphanum || c = '_'

/-! ## Gaps -/

/-- Length of a block comment after its opening, up to and including the first closing mark. -/
def blockLength? : List Char → Option Nat
  | '*' :: '/' :: _ => some 2
  | _ :: s => (blockLength? s).map (· + 1)
  | [] => none

/-- Length of the gap before the next token: blanks, comments from two dashes to the end of the
line, and block comments. A block comment that is not closed is reported by its offset. -/
def gapLength (s : List Char) : Except Nat Nat :=
  match s with
  | '-' :: '-' :: r =>
    let n := (r.takeWhile (· ≠ '\n')).length
    shift (n + 2) (gapLength (r.drop n))
  | '/' :: '*' :: r =>
    match blockLength? r with
    | some n => shift (n + 2) (gapLength (r.drop n))
    | none => .error 0
  | c :: r => if Text.isBlank c then shift 1 (gapLength r) else .ok 0
  | [] => .ok 0
termination_by s.length
decreasing_by all_goals simp +arith
where
  /-- Counts from an earlier start. -/
  shift (n : Nat) : Except Nat Nat → Except Nat Nat
    | .ok m => .ok (n + m)
    | .error m => .error (n + m)

/-! ## Literals -/

/-- Lengths of the digit groups of a hyphenated identifier. -/
def guidGroups : List Nat := [8, 4, 4, 4, 12]

/-- What follows groups of hexadecimal digits with hyphens between them. -/
def afterGroups? (s : List Char) : List Nat → Option (List Char)
  | [] => some s
  | n :: groups =>
    if (s.take n).length = n ∧ (s.take n).all Guid.isHexDigit then
      match groups, s.drop n with
      | [], r => some r
      | _ :: _, '-' :: r => afterGroups? r groups
      | _, _ => none
    else none

/-- Length of a hyphenated identifier, with or without braces, that no word character follows. -/
def guidLength? (s : List Char) : Option Nat :=
  let rest? : Option (List Char) :=
    match s with
    | '\x7b' :: r =>
      match afterGroups? r guidGroups with
      | some ('\x7d' :: rest) => some rest
      | _ => none
    | s => afterGroups? s guidGroups
  (rest?.filter fun rest => !(rest.head?.any isWordChar)).map fun rest => s.length - rest.length

/-- Length of a word. -/
def wordLength (s : List Char) : Nat :=
  (s.takeWhile isWordChar).length

/-- Length of a word, a colon and digits. -/
def measurementKeyLength? (s : List Char) : Option Nat :=
  if s.head?.any isWordStart then
    let n := wordLength s
    match s.drop n with
    | ':' :: r =>
      let digits := (r.takeWhile Char.isDigit).length
      if digits = 0 then none else some (n + 1 + digits)
    | _ => none
  else none

/-- Length of an exponent: its mark, an optional sign, and digits. Without digits there is none. -/
def exponentLength (s : List Char) : Nat :=
  match s with
  | c :: r =>
    if c = 'e' || c = 'E' then
      let sign := match r with
        | d :: _ => if d = '+' || d = '-' then 1 else 0
        | [] => 0
      let digits := ((r.drop sign).takeWhile Char.isDigit).length
      if digits = 0 then 0 else 1 + sign + digits
    else 0
  | [] => 0

/-- Length of the digits of a numeral with an optional point among them. -/
def digitsLength (s : List Char) : Nat :=
  let whole := (s.takeWhile Char.isDigit).length
  match s.drop whole with
  | '.' :: r =>
    let fraction := (r.takeWhile Char.isDigit).length
    if whole = 0 ∧ fraction = 0 then 0 else whole + 1 + fraction
  | _ => whole

/-- Length of the digits after the mark of a hexadecimal number, with the mark; zero if there is
none. -/
def hexLength (s : List Char) : Nat :=
  match s with
  | '0' :: c :: r =>
    if c = 'x' || c = 'X' then
      let digits := (r.takeWhile Guid.isHexDigit).length
      if digits = 0 then 0 else 2 + digits
    else 0
  | _ => 0

/-- Length of a number, hexadecimal or decimal. -/
def numberLength (s : List Char) : Nat :=
  if hexLength s ≠ 0 then hexLength s
  else
    let n := digitsLength s
    n + exponentLength (s.drop n)

/-- A text that begins like a number. -/
def startsNumber : List Char → Bool
  | '.' :: d :: _ => d.isDigit
  | c :: _ => c.isDigit
  | [] => false

/-- Content and length of what stands before a closing mark, the mark counted. If `doubled`, two
closing marks stand for one in the content. -/
def readDelimited? (closing : Char) (doubled : Bool) : List Char → Option (List Char × Nat)
  | [] => none
  | c :: s =>
    if c = closing then
      match s with
      | d :: r =>
        if doubled && d = closing then
          (readDelimited? closing doubled r).map fun (content, n) => (closing :: content, n + 2)
        else some ([], 1)
      | [] => some ([], 1)
    else (readDelimited? closing doubled s).map fun (content, n) => (c :: content, n + 1)

end RowFilter.Token
