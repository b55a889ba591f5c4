import RowFilter.Pattern.Basic

/-!
Patterns laid out as programs: numbered steps, each consuming a character, testing a place, trying
two continuations in order, or accepting. A part of a pattern goes on at the step behind it.
-/

namespace RowFilter

namespace Pattern

inductive Step where
  /-- Consumes this character and goes on behind. -/
  | expect (c : Char)
  /-- Consumes a character of the set and goes on behind. -/
  | consume (s : Text.CharSet)
  /-- Goes on behind if the condition holds. -/
  | test (l : Look)
  /-- Tries the first continuation before the second. -/
  | fork (first second : Nat)
  | jump (target : Nat)
  | accept

abbrev Program := Array Step

/-- Lays out something behind the steps so far. -/
abbrev Layout := Program → Program

namespace Layout

/-- A choice between going into a part and going past it. -/
def enterOrPass (greedy : Bool) (part past : Nat) : Step :=
  if greedy then .fork part past else .fork past part

/-- A part so many times in a row. -/
def times (part : Layout) : Nat → Layout
  | 0, program => program
  | n + 1, program => times part n (part program)

/-- A part up to so many times, each time deciding whether to go on past the whole. `exits` are
the steps so far where that is decided. -/
def upTo (part : Layout) (greedy : Bool) (exits : List Nat) : Nat → Layout
  | 0, program =>
    let past := program.size
    exits.foldl (fun steps i => steps.setIfInBounds i (enterOrPass greedy (i + 1) past)) program
  | n + 1, program => upTo part greedy (program.size :: exits) n (part (program.push .accept))

/-- A part at least once. -/
def oneOrMore (part : Layout) (greedy : Bool) : Layout := fun program =>
  let start := program.size
  let program := part program
  program.push (enterOrPass greedy start (program.size + 1))

/-- A part at least `least` times and at most `most` times. -/
def repeated (part : Layout) (least : Nat) (most : Option Nat) (greedy : Bool) : Layout :=
  match least, most with
  | 0, none => upTo (oneOrMore part greedy) greedy [] 1
  | n + 1, none => fun program => oneOrMore part greedy (times part n program)
  | n, some k => fun program => upTo part greedy [] (k - n) (times part n program)

/-- Makes every exit of a choice go on at the end. -/
def joinExits (exits : List Nat) : Layout := fun program =>
  let past := program.size
  exits.foldl (fun steps i => steps.setIfInBounds i (.jump past)) program

end Layout

mutual

/-- Lays out a pattern. -/
def layout : Pattern → Layout
  | empty, program => program
  | literal cs, program => cs.foldl (fun steps c => steps.push (.expect c)) program
  | set s, program => program.push (.consume s)
  | look l, program => program.push (.test l)
  | repeated p least most greedy, program => Layout.repeated (layout p) least most greedy program
  | group _ p, program => layout p program
  | sequence ps, program => layoutSequence ps program
  | choice ps, program => layoutChoice ps [] program

def layoutSequence : List Pattern → Layout
  | [], program => program
  | p :: ps, program => layoutSequence ps (layout p program)

/-- Lays out alternatives. `exits` are the steps so far that end an alternative. -/
def layoutChoice : List Pattern → List Nat → Layout
  | [], exits, program => Layout.joinExits exits program
  | [p], exits, program => Layout.joinExits exits (layout p program)
  | p :: ps, exits, program =>
    let entry := program.size
    let program := layout p (program.push .accept)
    let exit := program.size
    layoutChoice ps (exit :: exits)
      ((program.push .accept).setIfInBounds entry (.fork (entry + 1) (exit + 1)))

end

/-- The program of a whole pattern. -/
def program (p : Pattern) : Program :=
  (p.layout #[]).push .accept

end Pattern

end RowFilter
