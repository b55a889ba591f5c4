import RowFilter.Pattern.Basic

/-!
Building patterns in a normal form: literals side by side are one literal, sequences and choices
do not hold their own kind, choices between characters are sets, and what all alternatives begin
with stands before the choice.
-/

namespace RowFilter

namespace Pattern

/-! ## Equality -/

mutual

/-- The two patterns are written alike, their groups having the same numbers. -/
def same : Pattern → Pattern → Bool
  | empty, empty => true
  | literal cs, literal ds => cs == ds
  | set s, set t => s == t
  | look l, look k => l == k
  | repeated p least most greedy, repeated q least' most' greedy' =>
    least == least' && most == most' && greedy == greedy' && same p q
  | group i p, group j q => i == j && same p q
  | sequence ps, sequence qs => sameAll ps qs
  | choice ps, choice qs => sameAll ps qs
  | _, _ => false

def sameAll : List Pattern → List Pattern → Bool
  | [], [] => true
  | p :: ps, q :: qs => same p q && sameAll ps qs
  | _, _ => false

end

/-! ## Sets and repetition -/

/-- One character of a set. The set of a single character is that character. -/
def ofSet (s : Text.CharSet) : Pattern :=
  match s.only? with
  | some c => literal [c]
  | none => set s

/-- A repetition. What has no characters is never repeated more than once. -/
def ofRepetition (p : Pattern) (least : Nat) (most : Option Nat) (greedy : Bool) : Pattern :=
  let (least, most) : Nat × Option Nat :=
    if p.isWeightless then (min least 1, some (most.elim 1 (min · 1))) else (least, most)
  if most = some 0 then empty
  else if least = 1 ∧ most = some 1 then p
  else repeated p least most greedy

/-! ## Sequences -/

/-- The patterns that stand in a row. -/
def inRow : Pattern → List Pattern
  | empty => []
  | sequence ps => ps
  | p => [p]

/-- A row being built: its patterns and the literal at its end, both in reverse. -/
structure Row where
  patterns : List Pattern := []
  characters : List Char := []

namespace Row

/-- Ends the literal at the end. -/
def close (r : Row) : List Pattern :=
  if r.characters.isEmpty then r.patterns else literal r.characters.reverse :: r.patterns

def add (r : Row) (p : Pattern) : Row :=
  match p with
  | literal cs => { r with characters := cs.reverseAux r.characters }
  | p => { patterns := p :: r.close }

end Row

def ofSequence (ps : List Pattern) : Pattern :=
  match ((ps.flatMap inRow).foldl Row.add {}).close.reverse with
  | [] => empty
  | [p] => p
  | ps => sequence ps

/-! ## Choices -/

def alternatives : Pattern → List Pattern
  | choice ps => ps
  | p => [p]

/-- The only character that a pattern stands for. -/
def character? : Pattern → Option Char
  | literal [c] => some c
  | _ => none

def set? : Pattern → Option Text.CharSet
  | set s => some s
  | _ => none

/-- A choice between alternatives with nothing in common. -/
def ofDistinct (ps : List Pattern) : Pattern :=
  match ps.flatMap alternatives with
  | [p] => p
  | ps =>
    if ps.all (·.character?.isSome) then
      ofSet (.ofCodes ((ps.filterMap character?).map Char.toNat))
    else if ps.all (·.set?.isSome) then ofSet (.unionAll (ps.filterMap set?))
    else choice ps

/-- The patterns of a row of several. -/
def rowOf : Pattern → List Pattern
  | sequence ps => ps
  | _ => []

/-- What two rows begin with alike. -/
def commonStart : List Pattern → List Pattern → List Pattern
  | p :: ps, q :: qs => if same p q then p :: commonStart ps qs else []
  | _, _ => []

/-- What all rows begin with. -/
def commonStartOf : List Pattern → List Pattern
  | [] => []
  | p :: ps => ps.foldl (fun found q => commonStart found q.rowOf) p.rowOf

def ofChoice (ps : List Pattern) : Pattern :=
  match ofDistinct ps with
  | choice ps =>
    match commonStartOf ps with
    | [] => choice ps
    | start =>
      let rests := ps.map fun p => ofSequence (p.rowOf.drop start.length)
      ofSequence (start ++ [ofDistinct rests])
  | p => p

end Pattern

end RowFilter
