/-!
Sets of characters as lists of code point ranges, and the operations on them. A set is written in
one way only: its ranges ascend and neither overlap nor touch.
-/

namespace RowFilter.Text

/-- A set of characters: closed ranges of code points, ascending and apart. -/
structure CharSet where
  ranges : Array (Nat × Nat)
deriving Repr, DecidableEq

namespace CharSet

/-! ## Members -/

/-- Binary search for a range that holds `n`, among the ranges from `low` up to but not `high`. -/
def search (t : CharSet) (n low high : Nat) : Bool :=
  if low < high then
    let middle := (low + high) / 2
    match t.ranges[middle]? with
    | none => false
    | some (first, last) =>
      if n < first then t.search n low middle
      else if last < n then t.search n (middle + 1) high
      else true
  else false
termination_by high - low

def holds (t : CharSet) (n : Nat) : Bool :=
  t.search n 0 t.ranges.size

def contains (t : CharSet) (c : Char) : Bool :=
  t.holds c.toNat

def isEmpty (t : CharSet) : Bool :=
  t.ranges.isEmpty

/-- The only member of a set of one. -/
def only? (t : CharSet) : Option Char :=
  match t.ranges.toList with
  | [(first, last)] => if first = last then some (Char.ofNat first) else none
  | _ => none

/-- All members are characters of ASCII. -/
def isAscii (t : CharSet) : Bool :=
  match t.ranges.back? with
  | some (_, last) => last < 0x80
  | none => true

/-! ## Building -/

def full : CharSet := ⟨#[(0, 0x10FFFF)]⟩

def between (a b : Char) : CharSet := ⟨#[(a.toNat, b.toNat)]⟩

def single (c : Char) : CharSet := between c c

/-- Adds a range that begins no earlier than the ranges before it. -/
def absorb (done : Array (Nat × Nat)) (r : Nat × Nat) : Array (Nat × Nat) :=
  match done.back? with
  | some (first, last) =>
    if r.1 ≤ last + 1 then done.pop.push (first, max last r.2) else done.push r
  | none => done.push r

/-- The set of the code points in some ranges, which may be in any order and overlap. -/
def ofRanges (rs : List (Nat × Nat)) : CharSet :=
  ⟨(rs.mergeSort fun a b => a.1 ≤ b.1).foldl absorb #[]⟩

/-- The set of some code points. -/
def ofCodes (codes : List Nat) : CharSet :=
  ofRanges (codes.map fun n => (n, n))

def hexDigit? (c : Char) : Option Nat :=
  if '0' ≤ c ∧ c ≤ '9' then some (c.toNat - '0'.toNat)
  else if 'A' ≤ c ∧ c ≤ 'F' then some (c.toNat - 'A'.toNat + 10)
  else if 'a' ≤ c ∧ c ≤ 'f' then some (c.toNat - 'a'.toNat + 10)
  else none

/-- State of reading a set: the ranges so far, the first end of the range being read once its
dash is past, and the number being read. -/
structure Reader where
  ranges : Array (Nat × Nat) := #[]
  first : Option Nat := none
  number : Option Nat := none

namespace Reader

/-- Ends the range being read. A range without a dash holds one code point. -/
def close (r : Reader) : Reader :=
  match r.number with
  | none => r
  | some last => { ranges := r.ranges.push (r.first.getD last, last) }

def read (r : Reader) (c : Char) : Reader :=
  match hexDigit? c with
  | some d => { r with number := some (16 * r.number.getD 0 + d) }
  | none => if c = '-' then { r with first := r.number, number := none } else r.close

end Reader

/-- Reads ranges such as `41-5A 61-7A AA`: hexadecimal code points with blanks between ranges. -/
def ofText (text : String) : CharSet :=
  ⟨(text.toList.foldl Reader.read {}).close.ranges⟩

/-! ## Union -/

def union (s t : CharSet) : CharSet :=
  if s.isEmpty then t
  else if t.isEmpty then s
  else ⟨(s.ranges.toList.merge t.ranges.toList fun a b => a.1 ≤ b.1).foldl absorb #[]⟩

def unionAll (ts : List CharSet) : CharSet :=
  ofRanges (ts.flatMap (·.ranges.toList))

/-! ## Complement -/

/-- The code point of the next character. No character has the code point of a surrogate. -/
def after (n : Nat) : Nat :=
  if n = 0xD7FF then 0xE000 else n + 1

/-- The code point of the character before. -/
def before (n : Nat) : Nat :=
  if n = 0xE000 then 0xD7FF else n - 1

/-- The gaps behind a range that ends with `last`. Ranges on both sides of the surrogates have no
character between them; the gap is then bounded by the characters next to it. -/
def gapsAfter (last : Nat) : List (Nat × Nat) → List (Nat × Nat)
  | [] => if last < 0x10FFFF then [(after last, 0x10FFFF)] else []
  | (a, b) :: rest =>
    (min (after last) (before a), max (after last) (before a)) :: gapsAfter b rest

def complement (t : CharSet) : CharSet :=
  match t.ranges.toList with
  | [] => full
  | (a, b) :: rest =>
    ⟨((if 0 < a then [(0, before a)] else []) ++ gapsAfter b rest).toArray⟩

/-! ## Intersection and differences -/

/-- Adds what two lists of ranges have in common. -/
def meet (found : Array (Nat × Nat)) :
    List (Nat × Nat) → List (Nat × Nat) → Array (Nat × Nat)
  | (a, b) :: s, (c, d) :: t =>
    let found := if max a c ≤ min b d then found.push (max a c, min b d) else found
    if b < d then meet found s ((c, d) :: t) else meet found ((a, b) :: s) t
  | _, _ => found
termination_by s t => s.length + t.length

def intersection (s t : CharSet) : CharSet :=
  ⟨meet #[] s.ranges.toList t.ranges.toList⟩

/-- Adds what the ranges of one list have beyond those of another. -/
def subtract (left : Array (Nat × Nat)) :
    List (Nat × Nat) → List (Nat × Nat) → Array (Nat × Nat)
  | [], _ => left
  | (a, b) :: s, [] => subtract (left.push (a, b)) s []
  | (a, b) :: s, (c, d) :: t =>
    if d < a then subtract left ((a, b) :: s) t
    else if b < c then subtract (left.push (a, b)) s ((c, d) :: t)
    else
      let left := if a < c then left.push (a, before c) else left
      if d < b then subtract left ((after d, b) :: s) t else subtract left s ((c, d) :: t)
termination_by s t => s.length + t.length

def difference (s t : CharSet) : CharSet :=
  ⟨subtract #[] s.ranges.toList t.ranges.toList⟩

def symmetricDifference (s t : CharSet) : CharSet :=
  (s.union t).difference (s.intersection t)

end CharSet

/-- A set with the names it goes by, in lowercase without separators. -/
structure NamedSet where
  names : List String
  set : CharSet

namespace NamedSet

def goesBy (s : NamedSet) (name : String) : Bool :=
  s.names.contains name

/-- The first set that goes by a name. -/
def find? (sets : List NamedSet) (name : String) : Option CharSet :=
  (sets.find? (·.goesBy name)).map (·.set)

end NamedSet

end RowFilter.Text
