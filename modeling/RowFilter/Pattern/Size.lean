import Std.Data.HashMap
import RowFilter.Pattern.Basic
import RowFilter.Text.Utf8

/-!
The size of a pattern: the memory of the two finite automata over bytes that recognise it, one that
reads forward and notes where groups begin and end, and one that reads backward. A pattern is only
used if both stay within the limit.
-/

namespace RowFilter

namespace Pattern

open Text (ByteRange CharSet)

/-- The states of an automaton as far as it is built, and the bytes that they have in lists of
their own. States are numbered in the order in which they are added. -/
structure Tally where
  states : Nat := 0
  lists : Nat := 0

namespace Tally

def bytes (t : Tally) : Nat := 32 * t.states + t.lists

def isFull (t : Tally) : Bool := sizeLimit < t.bytes

/-- Adds a state without a list. -/
def add (t : Tally) : Tally := { t with states := t.states + 1 }

/-- Adds a state that goes on at several others. -/
def addFork (t : Tally) (ways : Nat) : Tally := ⟨t.states + 1, t.lists + 4 * ways⟩

/-- Adds a state with byte ranges of its own. -/
def addRanges (t : Tally) (count : Nat) : Tally := ⟨t.states + 1, t.lists + 8 * count⟩

end Tally

/-! ## Shared states -/

/-- A hash of some numbers: each is mixed in by an exclusive or and a multiplication. -/
def mix (ns : List Nat) : UInt64 :=
  ns.foldl (fun h n => (h ^^^ n.toUInt64) * 1099511628211) 14695981039346656037

/-- States by what they do, so that equal ones are added once. There is room for one state for each
remainder of the hash; a new one takes the place of an old one. -/
structure Shared where
  room : Nat
  states : Std.HashMap Nat (List Nat × Nat) := {}

namespace Shared

def slot (c : Shared) (key : List Nat) : Nat := (mix key).toNat % c.room

def find? (c : Shared) (key : List Nat) : Option Nat :=
  match c.states[c.slot key]? with
  | some (found, state) => if found = key then some state else none
  | none => none

def insert (c : Shared) (key : List Nat) (state : Nat) : Shared :=
  { c with states := c.states.insert (c.slot key) (key, state) }

end Shared

/-! ## Sets, forward -/

/-- A way from a state to the next one by a byte. -/
structure Edge where
  range : ByteRange
  next : Nat

/-- A state that is not added yet: its ways so far, in reverse, and the range of the way to a
state that is not added either. -/
structure OpenState where
  edges : List Edge := []
  pending : Option ByteRange := none

def OpenState.close (o : OpenState) (next : Nat) : OpenState :=
  match o.pending with
  | some range => { edges := ⟨range, next⟩ :: o.edges }
  | none => o

/-- A set being laid out from its byte sequences in ascending order: the states along the last
sequence, the deepest first, are still open. -/
structure Spine where
  tally : Tally
  shared : Shared := { room := 10000 }
  opened : List OpenState := [{}]

namespace Spine

/-- The number of a state with some ways, which is added unless there is one already. -/
def state (s : Spine) (edges : List Edge) : Nat × Spine :=
  let key := edges.reverse.flatMap fun e => [e.range.first, e.range.last, e.next]
  match s.shared.find? key with
  | some state => (state, s)
  | none =>
    (s.tally.states, { s with
      tally := s.tally.addRanges edges.length
      shared := s.shared.insert key s.tally.states })

/-- Closes the open states below the first `kept` and the one after them. -/
def closeBelow (kept next : Nat) (s : Spine) : List OpenState → Spine
  | [] => s
  | o :: os =>
    if kept < os.length then
      let (next, s) := s.state (o.close next).edges
      closeBelow kept next s os
    else { s with opened := o.close next :: os }

/-- How many ranges a sequence has in common with the one before. -/
def sharedLength : List ByteRange → List OpenState → Nat
  | r :: rs, o :: os => if o.pending = some r then sharedLength rs os + 1 else 0
  | _, _ => 0

/-- Opens states for the rest of a sequence. -/
def extend (s : Spine) : List ByteRange → Spine
  | [] => s
  | r :: rs =>
    match s.opened with
    | [] => s
    | o :: os =>
      { s with opened := rs.foldl (fun os r => ⟨[], some r⟩ :: os) ({ o with pending := some r } :: os) }

def add (target : Nat) (s : Spine) (sequence : List ByteRange) : Spine :=
  let kept := sharedLength sequence s.opened.reverse
  (closeBelow kept target s s.opened).extend (sequence.drop kept)

def finish (target : Nat) (s : Spine) : Tally :=
  let s := closeBelow 0 target s s.opened
  match s.opened with
  | o :: _ => (s.state o.edges).2.tally
  | [] => s.tally

end Spine

/-! ## Sets, backward -/

/-- A set being laid out backward: states for the bytes of its sequences, shared from the end. -/
structure Fan where
  tally : Tally
  shared : Shared := { room := 1000 }

namespace Fan

/-- Leads a byte range to a state, giving the state that does. -/
def addRange (f : Fan) (next : Nat) (r : ByteRange) : Nat × Fan :=
  let key := [next, r.first, r.last]
  match f.shared.find? key with
  | some state => (state, f)
  | none =>
    (f.tally.states, ⟨f.tally.add, f.shared.insert key f.tally.states⟩)

def add (target : Nat) (f : Fan) (sequence : List ByteRange) : Fan :=
  (sequence.foldl (fun (next, f) r => f.addRange next r) (target, f)).2

end Fan

/-- The way in which an automaton reads a text. -/
inductive Direction where
  | forward
  | backward
deriving DecidableEq, Repr

def addSet (d : Direction) (s : CharSet) (t : Tally) : Tally :=
  if s.isAscii then t.add.addRanges s.ranges.size
  else
    let sequences := s.ranges.foldl (fun found (a, b) => Text.byteSequences a b found) #[]
    match d with
    | .forward => (sequences.foldl (Spine.add t.states) { tally := t.add }).finish t.states
    | .backward =>
      let t := t.addFork sequences.size
      (sequences.foldl (Fan.add t.states) { tally := t.add }).tally

/-! ## Choices between literals -/

/-- A place in the tree of some literals: the ways on from it by a byte, and the numbers of the
ways there were whenever a literal ended here, the last first. Such ways are not shared by the
literals after that one. -/
structure Branching where
  ways : List (Nat × Nat) := []
  before : List Nat := []

namespace Branching

/-- How many ways there are between the ends of literals. -/
def counts (b : Branching) : List Nat := b.ways.length :: b.before

def isLeaf (b : Branching) : Bool := b.counts.all (· = 0)

/-- Notes the end of a literal. -/
def mark (b : Branching) : Branching :=
  if b.isLeaf && !b.before.isEmpty then b else { before := b.counts }

def addTo (t : Tally) (b : Branching) : Tally :=
  if b.isLeaf then t
  else
    let filled := b.counts.filter (· ≠ 0)
    let t := filled.foldl (fun t n => if n = 1 then t.add else t.addRanges n) t
    t.addFork (filled.length + b.before.length)

end Branching

/-- Adds the bytes of a literal from a place on. -/
def addLiteral (place : Nat) : List Nat → Array Branching → Array Branching
  | [], tree => tree.modify place Branching.mark
  | byte :: bytes, tree =>
    match (tree[place]?.bind fun b => b.ways.lookup byte) with
    | some next => addLiteral next bytes tree
    | none =>
      let next := tree.size
      addLiteral next bytes
        ((tree.modify place fun b => { b with ways := (byte, next) :: b.ways }).push {})

def literal? : Pattern → Option (List Char)
  | literal cs => some cs
  | _ => none

def addLiterals (d : Direction) (literals : List (List Char)) (t : Tally) : Tally :=
  let bytes (cs : List Char) : List Nat :=
    let forward := cs.flatMap fun c => Text.utf8Bytes c.toNat
    match d with
    | .forward => forward
    | .backward => forward.reverse
  let tree := literals.foldl (fun tree cs => addLiteral 0 (bytes cs) tree) #[{}]
  tree.foldl Branching.addTo t.add

/-! ## Patterns -/

/-- A part so many times, unless the limit is passed before. -/
def addTimes (part : Tally → Tally) : Nat → Tally → Tally
  | 0, t => t
  | n + 1, t => if t.isFull then t else addTimes part n (part t)

def addRepeated (part : Tally → Tally) (consumes : Bool) (least : Nat) (most : Option Nat)
    (t : Tally) : Tally :=
  match least, most with
  | 0, none => if consumes then part (t.addFork 2) else (((part t).addFork 2).addFork 2).add
  | n, none => (addTimes part n t).addFork 2
  | 0, some 1 => (part (t.addFork 2)).add
  | n, some k =>
    let t := if n = 0 then t.add else addTimes part n t
    if n = k then t else addTimes (fun t => part (t.addFork 2)) (k - n) t.add

mutual

/-- Adds the states of a pattern. -/
def addTo (d : Direction) : Pattern → Tally → Tally
  | empty, t | look _, t => t.add
  | literal cs, t => { t with states := cs.foldl (fun n c => n + c.utf8Size) t.states }
  | set s, t => addSet d s t
  | repeated p least most _, t => addRepeated (addTo d p) p.consumes least most t
  | group _ p, t =>
    match d with
    | .forward => (addTo d p t.add).add
    | .backward => addTo d p t
  | sequence ps, t => addAll d ps t
  | choice ps, t =>
    if ps.all (·.literal?.isSome) then addLiterals d (ps.filterMap literal?) t
    else addChoice d ps t

def addAll (d : Direction) : List Pattern → Tally → Tally
  | [], t => t
  | p :: ps, t => addAll d ps (addTo d p t)

/-- Adds alternatives. The fork between them comes behind the second one. -/
def addChoice (d : Direction) : List Pattern → Tally → Tally
  | p :: q :: ps, t => addAll d ps ((addTo d q (addTo d p t)).addFork (ps.length + 2)).add
  | ps, t => addAll d ps t

end

/-- The automaton that reads forward. Unless the pattern is anchored it may begin anywhere; the
whole match is a group. -/
def forwardTally (p : Pattern) : Tally :=
  let t : Tally := if p.opensWith .textStart then Tally.add {}
    else ((Tally.addFork {} 2).add).addRanges 1
  ((p.addTo .forward t.add).add).add

def backwardTally (p : Pattern) : Tally :=
  let q := p.backward
  let t : Tally := if q.opensWith .textEnd then Tally.add {}
    else ((Tally.addFork {} 2).add).addRanges 1
  (q.addTo .backward t).add

/-- A choice between so many literals is searched without an automaton. -/
def literalLimit : Nat := 3000

def isDictionary : Pattern → Bool
  | choice ps => literalLimit ≤ ps.length && ps.all (·.literal?.isSome)
  | _ => false

/-- The automata of the pattern stay within the limit. -/
def fits (p : Pattern) : Bool :=
  p.isDictionary || (!p.forwardTally.isFull && !p.backwardTally.isFull)

end Pattern

end RowFilter
