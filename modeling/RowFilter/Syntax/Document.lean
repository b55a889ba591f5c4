import RowFilter.Syntax.Parser

/-!
Reading a whole document: statements with any number of semicolons around and between them. A
statement is a lone identifier, a FILTER statement, or a term.
-/

namespace RowFilter.Syntax

open Text (Position)

/-- The row identifier a token stands for. -/
def identifier? : Token.Kind → Option Identifier
  | .guid text => some ⟨.guid, text⟩
  | .measurementKey text => some ⟨.measurementKey, text⟩
  | .pointTag text => some ⟨.pointTag, text⟩
  | _ => none

def isSemicolon (t : Token) : Bool :=
  t.kind = .symbol .semicolon

/-- A statement ends here: at a semicolon or at the end of the input. -/
def atBoundary : List Token → Bool
  | t :: _ => isSemicolon t
  | [] => true

/-! ## FILTER statements -/

/-- Reads the number of a TOP limit, which has to be an Int32. -/
def limitNumber (finish : Position) (negative : Bool) :
    (ts : List Token) → Except Error (Parsed Int ts.length)
  | ⟨.integer text, _source, position⟩ :: rest =>
    match (Integer.readUnsigned? 31 text.toList : Option Nat) with
    | some n => .ok ⟨Double.signed negative n, rest, Nat.lt_succ_self _⟩
    | none => .error (.grammar (.limitOutOfRange text) position)
  | ts => .error (mismatch finish ts "integer TOP limit")

/-- Reads the TOP limit, if there is one. -/
def topLimit (finish : Position) (ts : List Token) :
    Except Error (Parsed (Option Int) (ts.length + 1)) :=
  if startsWith (.keyword .TOP) ts then
    if startsWith (.symbol .minus) (ts.drop 1) then do
      let limit ← limitNumber finish true (ts.drop 2)
      return ⟨some limit.value, limit.rest, by
        have := limit.fewer
        simp only [List.length_drop] at this
        omega⟩
    else do
      let plus := startsWith (.symbol .plus) (ts.drop 1)
      let limit ← limitNumber finish false (ts.drop (if plus then 2 else 1))
      return ⟨some limit.value, limit.rest, by
        have := limit.fewer
        simp only [List.length_drop] at this
        omega⟩
  else .ok ⟨none, ts, Nat.lt_succ_self _⟩

/-- Reads one term of an ORDER BY list. -/
def orderingTerm (finish : Position) (ts : List Token) :
    Except Error (Parsed OrderingTerm ts.length) := do
  let column ← expectName finish "column name" (skipExact ts).2
  let descending := startsWith (.keyword .DESC) column.rest
  let ascending := startsWith (.keyword .ASC) column.rest
  return ⟨⟨column.value, !descending, (skipExact ts).1⟩,
    column.rest.drop (if descending || ascending then 1 else 0), by
      have := column.fewer
      have := length_skipExact_le ts
      simp only [List.length_drop]
      omega⟩

/-- Reads the terms of an ORDER BY list, with commas between them. -/
def orderingTerms (finish : Position) (ts : List Token) :
    Except Error (Parsed (List OrderingTerm) ts.length) := do
  let first ← orderingTerm finish ts
  if startsWith (.symbol .comma) first.rest then
    let more ← orderingTerms finish (first.rest.drop 1)
    return ⟨first.value :: more.value, more.rest, by
      have := more.fewer
      have := first.fewer
      simp only [List.length_drop] at *
      omega⟩
  else return ⟨[first.value], first.rest, first.fewer⟩
termination_by ts.length
decreasing_by
  have := first.fewer
  simp only [List.length_drop]
  omega

/-- Reads the ORDER BY list, if there is one. -/
def orderBy (finish : Position) (ts : List Token) :
    Except Error (Parsed (List OrderingTerm) (ts.length + 1)) :=
  if startsWith (.keyword .ORDER) ts then do
    let byWord ← expect finish (.keyword .BY) "BY" (ts.drop 1)
    let terms ← orderingTerms finish byWord.rest
    return ⟨terms.value, terms.rest, by
      have := terms.fewer
      have := byWord.fewer
      simp only [List.length_drop] at *
      omega⟩
  else .ok ⟨[], ts, Nat.lt_succ_self _⟩

/-- Reads a FILTER statement after its keyword. -/
def filterStatement (finish position : Position) (ts : List Token) :
    Except Error (Parsed Statement ts.length) := do
  let limit ← topLimit finish ts
  let table ← expectName finish "table name" limit.rest
  let whereWord ← expect finish (.keyword .WHERE) "WHERE" table.rest
  let condition ← term finish whereWord.rest
  let order ← orderBy finish condition.rest
  return ⟨.filter position ⟨table.value, limit.value, order.value⟩ condition.value, order.rest, by
    have := limit.fewer
    have := table.fewer
    have := whereWord.fewer
    have := condition.fewer
    have := order.fewer
    omega⟩

/-! ## Documents -/

/-- Reads one statement. -/
def statement (finish : Position) (t : Token) (rest : List Token) :
    Except Error (Parsed Statement (rest.length + 1)) :=
  if t.kind = .keyword .FILTER then do
    let s ← filterStatement finish t.position rest
    return s.behindOne
  else
    match (identifier? t.kind).filter fun _ => atBoundary rest with
    | some i => .ok ⟨.identifier t.position i, rest, Nat.lt_succ_self _⟩
    | none => do
      let e ← term finish (t :: rest)
      return ⟨.expression t.position e.value, e.rest, e.fewer⟩

/-- Reads the statements up to the end of the input. -/
def statements (finish : Position) (ts : List Token) : Except Error (List Statement) :=
  match ts with
  | [] => .ok []
  | t :: rest =>
    if isSemicolon t then statements finish rest
    else do
      let s ← statement finish t rest
      if atBoundary s.rest then
        let more ← statements finish s.rest
        return s.value :: more
      else .error (mismatch finish s.rest "';' or end of input")
termination_by ts.length
decreasing_by
  · simp
  · exact s.fewer

namespace Document

/-- The document of a token list. -/
def ofTokens (ts : List Token) (finish : Position) : Except Error Document :=
  (Syntax.statements finish ts).map fun list => ⟨here finish ts, list⟩

/-- Reads a document. -/
def parse (input : String) : Except Error Document := do
  let (tokens, finish) ← Token.tokenize input
  ofTokens tokens finish

end Document

end RowFilter.Syntax
