import RowFilter.Pattern.Bracket
import RowFilter.Pattern.Count
import RowFilter.Pattern.Normal
import RowFilter.Pattern.Opening

/-!
Reading written patterns: alternatives of sequences of items, each possibly repeated, with groups
that can set modes for themselves or for what follows them. Beside each item its depth is kept, how
deeply groups, repetitions, brackets, sequences and choices are nested in it.
-/

namespace RowFilter

namespace Pattern

open Text (CharSet)

/-! ## Items -/

/-- A part of a pattern with its depth. A change of modes is an item that cannot be repeated. -/
structure Item where
  pattern : Pattern
  depth : Nat := 0
  repeatable : Bool := true

namespace Item

/-- The greatest depth of some items. -/
def deepest (is : List Item) : Nat :=
  is.foldl (fun n i => max n i.depth) 0

/-- Items in a row, given in reverse. Several items are one level above them. -/
def row : List Item → Item
  | [] => ⟨empty, 0, true⟩
  | [i] => { i with repeatable := true }
  | is => ⟨ofSequence (is.reverse.map (·.pattern)), deepest is + 1, true⟩

/-- Alternatives, given in reverse. -/
def choice : List Item → Item
  | [i] => i
  | is => ⟨ofChoice (is.reverse.map (·.pattern)), deepest is + 1, true⟩

end Item

/-- The pattern of a character under the modes. -/
def characterPattern (m : Modes) (c : Char) : Pattern :=
  if !m.ignoreCase then literal [c]
  else if m.unicode then ofSet (.family c)
  else ofSet (CharSet.single c).foldedAscii

/-- The pattern of a text whose letters stand for their whole families. -/
def ofFoldedText (s : List Char) : Pattern :=
  ofSequence (s.map (characterPattern { ignoreCase := true }))

/-- The pattern of an atom under the modes. A byte above ASCII is a character in Unicode mode. -/
def atomPattern? (m : Modes) : Atom → Option Pattern
  | .character c => some (characterPattern m c)
  | .byte c => if m.unicode then some (characterPattern m c) else none
  | .set t => some (ofSet t)
  | .look l => some (look l)

/-- Any character, or any but the ends of lines. -/
def dot? (m : Modes) : Option Pattern :=
  if !m.unicode then none
  else if m.dotAll then some (set .full)
  else if m.anyLine then some (set (CharSet.ofText "A D").complement)
  else some (set (CharSet.ofText "A").complement)

def lineStart (m : Modes) : Look :=
  if m.multiLine then (if m.anyLine then .anyLineStart else .lineStart) else .textStart

def lineEnd (m : Modes) : Look :=
  if m.multiLine then (if m.anyLine then .anyLineEnd else .lineEnd) else .textEnd

/-! ## Groups being read -/

/-- The alternatives of a group as far as they are read: those that are complete, and the items
of the one being read, both in reverse. -/
structure Draft where
  alternatives : List Item := []
  items : List Item := []

namespace Draft

def add (d : Draft) (i : Item) : Draft :=
  { d with items := i :: d.items }

/-- Begins the next alternative. -/
def next (d : Draft) : Draft :=
  { alternatives := Item.row d.items :: d.alternatives }

def finish (d : Draft) : Item :=
  Item.choice d.next.alternatives

/-- Repeats the last item. -/
def repeat? (d : Draft) (count : Count) (greedy : Bool) : Option Draft :=
  match d.items with
  | ⟨p, depth, true⟩ :: rest =>
    some { d with items := ⟨ofRepetition p count.least count.most greedy, depth + 1, true⟩ :: rest }
  | _ => none

end Draft

/-- A group that is open: its number if it has one, and what it stands in. -/
structure OpenGroup where
  index : Option Nat
  modes : Modes
  draft : Draft

/-- How far a pattern is read: the modes in force, the number of groups and their names so far,
the group being read, and the groups around it. -/
structure Reading where
  modes : Modes := {}
  groups : Nat := 0
  names : List (List Char) := []
  draft : Draft := {}
  outer : List OpenGroup := []

namespace Reading

def add (g : Reading) (i : Item) : Reading :=
  { g with draft := g.draft.add i }

/-- A name that is new is added to those used before. -/
def addName? (names : List (List Char)) : Option (List Char) → Option (List (List Char))
  | none => some names
  | some name => if names.contains name then none else some (name :: names)

/-- Opens a group, or changes the modes. -/
def open? (g : Reading) : Opening → Option Reading
  | .modes m => some { g with modes := m, draft := g.draft.add ⟨empty, 0, false⟩ }
  | .part m => some { g with modes := m, draft := {}, outer := ⟨none, g.modes, g.draft⟩ :: g.outer }
  | .group name =>
    (addName? g.names name).map fun names =>
      { g with
        groups := g.groups + 1
        names := names
        draft := {}
        outer := ⟨some (g.groups + 1), g.modes, g.draft⟩ :: g.outer }

/-- Closes the group being read. -/
def close? (g : Reading) : Option Reading :=
  match g.outer with
  | [] => none
  | o :: outer =>
    let inner := g.draft.finish
    let p := o.index.elim inner.pattern (group · inner.pattern)
    some { g with modes := o.modes, draft := o.draft.add ⟨p, inner.depth + 1, true⟩, outer := outer }

/-- Reads one item or mark that begins with `c`. -/
def step? (g : Reading) (c : Char) (r : List Char) : Option (Read Reading (r.length + 1)) :=
  let m := g.modes
  let plain (g : Reading) : Option (Read Reading (r.length + 1)) :=
    some ⟨g, r, Read.length_lt r⟩
  match c with
  | '(' => (readGroupOpening? m r).bind (·.filterMap g.open?)
  | ')' => g.close?.bind plain
  | '|' => plain { g with draft := g.draft.next }
  | '[' => (readBracket? m r).map (·.map fun b => g.add ⟨ofSet b.set, b.depth, true⟩)
  | '*' | '+' | '?' | '\x7b' =>
    (readRepetition? m c r).bind (·.filterMap fun (count, greedy) =>
      (g.draft.repeat? count greedy).map fun d => { g with draft := d })
  | '.' => (dot? m).bind fun p => plain (g.add ⟨p, 0, true⟩)
  | '^' => plain (g.add ⟨look (lineStart m), 0, true⟩)
  | '$' => plain (g.add ⟨look (lineEnd m), 0, true⟩)
  | '\\' =>
    ((readEscape? m r).bind (·.filterMap fun a =>
      (atomPattern? m a).map fun p => g.add ⟨p, 0, true⟩)).map (·.weaken (Read.length_le r))
  | c => plain (g.add ⟨characterPattern m c, 0, true⟩)

/-- The whole pattern, if no group is open. -/
def finish? (g : Reading) : Option Item :=
  if g.outer.isEmpty then some g.draft.finish else none

/-- Reads the rest of a pattern. -/
def readAll? (g : Reading) (s : List Char) : Option Item :=
  match nextChar? g.modes s with
  | none => g.finish?
  | some ⟨c, r, _⟩ =>
    match g.step? c r with
    | none => none
    | some ⟨g, rest, _⟩ => readAll? g rest
termination_by s.length

end Reading

/-- The deepest nesting allowed. -/
def depthLimit : Nat := 250

/-- Reads a pattern. -/
def read? (s : List Char) : Option Pattern :=
  (Reading.readAll? {} s).bind fun i => if i.depth ≤ depthLimit then some i.pattern else none

end Pattern

end RowFilter
