import RowFilter.Error
import RowFilter.Token.Scan

/-!
Splitting a text into tokens. Gaps are passed over; a character that begins no token, and a quoted
literal or comment that is not closed, end the reading with an error.
-/

namespace RowFilter.Token

open Text (Position)

/-- What stands at the start of a text: a token with its length, or a fault. -/
inductive Reading where
  | token (kind : Kind) (length : Nat)
  /-- The first `length` characters belong to no token; the fault is noticed after `passed`. -/
  | unexpected (length passed : Nat)
  | unterminated (what : String)

/-- A number is refused if a word character follows it. A point or an exponent makes it
fractional. -/
def readNumber (s : List Char) : Reading :=
  let n := numberLength s
  let text := s.take n
  if (s.drop n).head?.any isWordChar then .unexpected n n
  else if hexLength s = 0 && text.any (fun c => c = '.' || c = 'e' || c = 'E') then
    .token (.numeric (String.ofList text)) n
  else .token (.integer (String.ofList text)) n

/-- A word is a keyword or a name. -/
def readWord (s : List Char) : Reading :=
  let n := wordLength s
  let word := s.take n
  match Keyword.ofWord? word with
  | some k => .token (.keyword k) n
  | none => .token (.identifier (String.ofList word)) n

/-- A literal whose opening mark has been seen. -/
def readQuoted (closing : Char) (doubled : Bool) (kind : String → Kind) (what : String)
    (s : List Char) : Reading :=
  match readDelimited? closing doubled s with
  | some (content, n) => .token (kind (String.ofList content)) (n + 1)
  | none => .unterminated what

def readSymbol (s : List Char) : Reading :=
  match Symbol.atStart? s with
  | some (n, symbol) => .token (.symbol symbol) n
  | none => .unexpected 1 0

/-- The token that begins with the character `c`. An identifier is recognised first, then a
measurement key, then a number and a word. -/
def readStart (c : Char) (r : List Char) : Reading :=
  let s := c :: r
  match guidLength? s, measurementKeyLength? s with
  | some n, _ => .token (.guid (String.ofList (s.take n))) n
  | none, some n => .token (.measurementKey (String.ofList (s.take n))) n
  | none, none =>
    if startsNumber s then readNumber s
    else if isWordStart c then readWord s
    else match c with
      | '\x27' => readQuoted '\x27' true .string "string literal" r
      | '\x22' => readQuoted '\x22' true .pointTag "point tag literal" r
      | '#' => readQuoted '#' true .dateTime "date/time literal" r
      | '[' => readQuoted ']' false .identifier "bracketed identifier" r
      | _ => readSymbol s

/-- The tokens of a text, and where it ends or the error that ended the reading. -/
structure Stream where
  tokens : List Token
  outcome : Except Error Position

/-- Puts a token in front. -/
def Stream.cons (t : Token) (s : Stream) : Stream :=
  { s with tokens := t :: s.tokens }

/-- Reads the tokens of a text that starts at `position`. -/
def streamFrom (position : Position) (s : List Char) : Stream :=
  match gapLength s with
  | .error n =>
    ⟨[], .error (.grammar (.unterminated "comment") (position.advance (s.take n)))⟩
  | .ok n =>
    let position := position.advance (s.take n)
    match _h : s.drop n with
    | [] => ⟨[], .ok position⟩
    | c :: r =>
      match readStart c r with
      | .unterminated what => ⟨[], .error (.grammar (.unterminated what) position)⟩
      | .unexpected length passed =>
        let text := (c :: r).take length
        ⟨[], .error (.lexical (String.ofList text) (position.advance ((c :: r).take passed)))⟩
      | .token kind length =>
        let text := c :: r.take (length - 1)
        (streamFrom (position.advance text) (r.drop (length - 1))).cons
          ⟨kind, String.ofList text, position⟩
termination_by s.length
decreasing_by
  have := congrArg List.length _h
  simp only [List.length_drop, List.length_cons] at this ⊢
  omega

/-- The tokens of a text up to its end or to the first error. -/
def stream (input : String) : Stream :=
  streamFrom .start input.toList

/-- The tokens of a whole text and the position of its end. -/
def tokenize (input : String) : Except Error (List Token × Position) :=
  let s := stream input
  s.outcome.map fun finish => (s.tokens, finish)

end RowFilter.Token
