import RowFilter.Text.CaseMap
import RowFilter.Text.Position

/-!
The tokens of filter expressions: keywords in any case, symbols, names, and literals of several
kinds. A token keeps its source text and its position.
-/

namespace RowFilter

inductive Keyword where
  | AND
  | ASC
  | BINARY
  | BY
  | DESC
  | FALSE
  | FILTER
  | IN
  | IS
  | LIKE
  | NOT
  | NULL
  | OR
  | ORDER
  | TOP
  | TRUE
  | WHERE
  | XOR
deriving DecidableEq, Repr

namespace Keyword

/-- The keyword spelled by a word in lowercase. -/
def ofLower? : String → Option Keyword
  | "and" => some AND
  | "asc" => some ASC
  | "binary" => some BINARY
  | "by" => some BY
  | "desc" => some DESC
  | "false" => some FALSE
  | "filter" => some FILTER
  | "in" => some IN
  | "is" => some IS
  | "like" => some LIKE
  | "not" => some NOT
  | "null" => some NULL
  | "or" => some OR
  | "order" => some ORDER
  | "top" => some TOP
  | "true" => some TRUE
  | "where" => some WHERE
  | "xor" => some XOR
  | _ => none

/-- The keyword spelled by a word in any case. -/
def ofWord? (word : List Char) : Option Keyword :=
  ofLower? (String.ofList (Text.lowerAscii word))

end Keyword

inductive Symbol where
  | semicolon
  | comma
  | minus
  | plus
  | leftParen
  | rightParen
  | bang
  | tilde
  | tripleEqual
  | less
  | lessEqual
  | greater
  | greaterEqual
  | equal
  | doubleEqual
  | notEqual
  | notDoubleEqual
  | lessGreater
  | ampAmp
  | pipePipe
  | shiftLeft
  | shiftRight
  | amp
  | pipe
  | caret
  | star
  | slash
  | percent
deriving DecidableEq, Repr

namespace Symbol

/-- The symbols with their spellings, longer spellings before the ones they begin with. -/
def spellings : List (List Char × Symbol) := [
  (['=', '=', '='], tripleEqual),
  (['!', '=', '='], notDoubleEqual),
  (['<', '='], lessEqual),
  (['>', '='], greaterEqual),
  (['<', '>'], lessGreater),
  (['<', '<'], shiftLeft),
  (['>', '>'], shiftRight),
  (['=', '='], doubleEqual),
  (['!', '='], notEqual),
  (['&', '&'], ampAmp),
  (['|', '|'], pipePipe),
  ([';'], semicolon),
  ([','], comma),
  (['-'], minus),
  (['+'], plus),
  (['('], leftParen),
  ([')'], rightParen),
  (['!'], bang),
  (['~'], tilde),
  (['<'], less),
  (['>'], greater),
  (['='], equal),
  (['&'], amp),
  (['|'], pipe),
  (['^'], caret),
  (['*'], star),
  (['/'], slash),
  (['%'], percent)]

/-- The symbol at the start of a text, with the length of its spelling. -/
def atStart? (s : List Char) : Option (Nat × Symbol) :=
  (spellings.find? (·.1.isPrefixOf s)).map fun (spelling, symbol) => (spelling.length, symbol)

end Symbol

namespace Token

/-- What a token is. Quoted kinds hold their content, the other ones the text as written. -/
inductive Kind where
  | keyword (k : Keyword)
  | symbol (s : Symbol)
  | identifier (name : String)
  | integer (text : String)
  | numeric (text : String)
  | string (content : String)
  | guid (text : String)
  | dateTime (content : String)
  | measurementKey (text : String)
  | pointTag (content : String)
deriving DecidableEq, Repr

end Token

structure Token where
  kind : Token.Kind
  /-- The source text as written. -/
  text : String
  position : Text.Position
deriving DecidableEq, Repr

namespace Token

/-- How a token is named in a message. -/
def display (t : Token) : String :=
  s!"'{t.text}'"

/-- How the end of the input is named in a message. -/
def endDisplay : String := "<EOF>"

end Token

end RowFilter
