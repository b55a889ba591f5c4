import RowFilter.Pattern.Program
import RowFilter.Pattern.Reader
import RowFilter.Pattern.Size

/-!
Searching a text for the first match of a pattern. All threads through the program are followed at
once, in the order of preference: of the matches that start first, the one that the pattern's
choices prefer is found.
-/

namespace RowFilter

namespace Pattern

/-- A thread: the step it is at and the place where its match would start. -/
structure Thread where
  step : Nat
  start : Nat
deriving DecidableEq, Repr

/-- The threads at one place: for each step the number of the last place it was visited at, the
threads that wait for a character, in reverse order of preference, and the start of the match that
ends here, if one does. Places are numbered from one. -/
structure Frontier where
  visited : Array Nat
  waiting : List Thread
  matched : Option Nat

/-- Follows steps that consume nothing. Every step is visited once, so `bound` is enough if it is
more than twice the number of steps. -/
def follow (program : Program) (before after : Option Char) (place start : Nat) :
    (bound : Nat) → List Nat → Frontier → Frontier
  | 0, _, f => f
  | _, [], f => f
  | bound + 1, i :: stack, f =>
    if f.visited.getD i place = place then
      follow program before after place start bound stack f
    else
      let f := { f with visited := f.visited.setIfInBounds i place }
      match program[i]? with
      | some (.fork first second) =>
        follow program before after place start bound (first :: second :: stack) f
      | some (.jump target) => follow program before after place start bound (target :: stack) f
      | some (.test l) =>
        follow program before after place start bound
          (if l.holds before after then (i + 1) :: stack else stack) f
      | some (.expect _) | some (.consume _) =>
        follow program before after place start bound stack
          { f with waiting := ⟨i, start⟩ :: f.waiting }
      | some .accept => { f with matched := some start }
      | none => f

/-- Follows threads in order of preference. Once one of them matches, the others are dropped. -/
def followAll (program : Program) (before after : Option Char) (place : Nat) (f : Frontier) :
    List Thread → Frontier
  | [] => f
  | t :: ts =>
    let f := follow program before after place t.start (2 * program.size + 2) [t.step] f
    if f.matched.isSome then f else followAll program before after place f ts

/-- The step takes the character. -/
def Step.takes (c : Char) : Step → Bool
  | expect d => c == d
  | consume s => s.contains c
  | _ => false

/-- The threads after a character, in order of preference. -/
def advance (program : Program) (c : Char) (waiting : List Thread) : List Thread :=
  waiting.foldl (fun ts (t : Thread) =>
    if program[t.step]?.any (Step.takes c) then ⟨t.step + 1, t.start⟩ :: ts else ts)
    ([] : List Thread)

/-- Searches the text from a place on. A new match may start at every place as long as none is
found; a match that is found gives way to one of a thread that was preferred. -/
def searchFrom (program : Program) (place : Nat) (before : Option Char) (visited : Array Nat)
    (threads : List Thread) (best : Option (Nat × Nat)) (s : List Char) : Option (Nat × Nat) :=
  let threads := if best.isSome then threads else threads ++ [⟨0, place⟩]
  let f := followAll program before s.head? (place + 1) ⟨visited, [], none⟩ threads
  let best := match f.matched with
    | some start => some (start, place)
    | none => best
  match s with
  | [] => best
  | c :: r =>
    let threads := advance program c f.waiting
    if threads.isEmpty && best.isSome then best
    else searchFrom program (place + 1) (some c) f.visited threads best r

/-- The start and the end of the first match. -/
def search (p : Pattern) (s : List Char) : Option (Nat × Nat) :=
  let program := p.program
  searchFrom program 0 none (Array.replicate program.size 0) [] none s

/-- Reads a pattern that is not too large. -/
def compile (text : List Char) : Except PatternFault Pattern :=
  match read? text with
  | none => .error .malformed
  | some p => if p.fits then .ok p else .error .tooLarge

/-- The text of the first match. -/
def firstMatch? (p : Pattern) (s : List Char) : Option (List Char) :=
  (search p s).map fun (start, stop) => (s.drop start).take (stop - start)

end Pattern

end RowFilter
