import RowFilter.Text.Property

/-!
Patterns for searching in texts: literal characters, sets of characters, conditions on the place
between two characters, repetition, groups, sequence and choice.
-/

namespace RowFilter

namespace Pattern

/-! ## Places between characters -/

/-- Which words a word condition looks at: those of all scripts, or ASCII words. -/
inductive WordKind where
  | all
  | ascii
deriving DecidableEq, Repr

/-- A condition on the characters before and after a place. -/
inductive Look where
  | textStart
  | textEnd
  | lineStart
  | lineEnd
  /-- Lines may also end with a carriage return. -/
  | anyLineStart
  | anyLineEnd
  | wordBoundary (k : WordKind)
  | notWordBoundary (k : WordKind)
  | wordStart (k : WordKind)
  | wordEnd (k : WordKind)
  | wordStartHalf (k : WordKind)
  | wordEndHalf (k : WordKind)
deriving DecidableEq, Repr

def WordKind.holds (k : WordKind) (c : Option Char) : Bool :=
  match k with
  | .all => c.any Text.Property.word.contains
  | .ascii => c.any fun c => c.isAlphanum || c == '_'

def Look.holds (before after : Option Char) : Look → Bool
  | textStart => before.isNone
  | textEnd => after.isNone
  | lineStart => before.all (· == '\n')
  | lineEnd => after.all (· == '\n')
  | anyLineStart =>
    before.all fun c => c == '\n' || (c == '\r' && after != some '\n')
  | anyLineEnd =>
    after.all fun c => c == '\r' || (c == '\n' && before != some '\r')
  | wordBoundary k => k.holds before != k.holds after
  | notWordBoundary k => k.holds before == k.holds after
  | wordStart k => !k.holds before && k.holds after
  | wordEnd k => k.holds before && !k.holds after
  | wordStartHalf k => !k.holds before
  | wordEndHalf k => !k.holds after

end Pattern

/-! ## Patterns -/

/-- A pattern. A repetition takes as many as it can if it is greedy, else as few; of the
alternatives the first that leads to a match is taken. Groups are numbered in the order in which
they open. -/
inductive Pattern where
  | empty
  | literal (cs : List Char)
  | set (s : Text.CharSet)
  | look (l : Pattern.Look)
  | repeated (p : Pattern) (least : Nat) (most : Option Nat) (greedy : Bool)
  | group (index : Nat) (p : Pattern)
  | sequence (ps : List Pattern)
  | choice (ps : List Pattern)

/-- Why a pattern cannot be used. -/
inductive PatternFault where
  | malformed
  | tooLarge
deriving DecidableEq, Repr

/-- The most bytes that a pattern may take once it is laid out. -/
def Pattern.sizeLimit : Nat := 10485760

def PatternFault.message : PatternFault → String
  | malformed => "regex parse error: malformed pattern"
  | tooLarge => s!"Compiled regex exceeds size limit of {Pattern.sizeLimit} bytes."

namespace Pattern

/-! ## How many characters a match has -/

mutual

/-- The most characters of a match, or nothing if there is no bound or no match. -/
def longest? : Pattern → Option Nat
  | empty | look _ => some 0
  | literal cs => some cs.length
  | set s => if s.isEmpty then none else some 1
  | repeated p _ most _ =>
    match most, p.longest? with
    | some k, some n => some (k * n)
    | _, _ => none
  | group _ p => p.longest?
  | sequence ps => longestInRow? 0 ps
  | choice ps => longestOf? 0 ps

/-- The most characters of patterns in a row, after `n` characters. -/
def longestInRow? (n : Nat) : List Pattern → Option Nat
  | [] => some n
  | p :: ps =>
    match p.longest? with
    | some k => longestInRow? (n + k) ps
    | none => none

/-- The most characters of one of the patterns, but at least `n`. -/
def longestOf? (n : Nat) : List Pattern → Option Nat
  | [] => some n
  | p :: ps =>
    match p.longest? with
    | some k => longestOf? (max n k) ps
    | none => none

end

mutual

/-- The fewest characters of a match, or nothing if a part of the pattern has no match. -/
def shortest? : Pattern → Option Nat
  | empty | look _ => some 0
  | literal cs => some cs.length
  | set s => if s.isEmpty then none else some 1
  | repeated p least _ _ => p.shortest?.map (least * ·)
  | group _ p => p.shortest?
  | sequence ps => shortestInRow? 0 ps
  | choice ps => shortestOf? none ps

/-- The fewest characters of patterns in a row, after `n` characters. -/
def shortestInRow? (n : Nat) : List Pattern → Option Nat
  | [] => some n
  | p :: ps =>
    match p.shortest? with
    | some k => shortestInRow? (n + k) ps
    | none => none

/-- The fewest characters of one of the patterns, or of the shortest before them. -/
def shortestOf? (least : Option Nat) : List Pattern → Option Nat
  | [] => least
  | p :: ps =>
    match p.shortest? with
    | some k => shortestOf? (some (least.elim k (min k))) ps
    | none => none

end

/-- Every match has at least one character. -/
def consumes (p : Pattern) : Bool :=
  p.shortest?.any (0 < ·)

/-- No match has a character. -/
def isWeightless (p : Pattern) : Bool :=
  p.longest? == some 0

/-! ## Where a match can start and end -/

mutual

/-- Every match has the condition hold at its start. -/
def opensWith (l : Look) : Pattern → Bool
  | empty | literal _ | set _ => false
  | look k => k == l
  | repeated p least _ _ => 0 < least && p.opensWith l
  | group _ p => p.opensWith l
  | sequence ps => rowOpensWith l ps
  | choice ps => allOpenWith l ps

def rowOpensWith (l : Look) : List Pattern → Bool
  | [] => false
  | p :: ps => p.opensWith l || (p.isWeightless && rowOpensWith l ps)

def allOpenWith (l : Look) : List Pattern → Bool
  | [] => true
  | p :: ps => p.opensWith l && allOpenWith l ps

end

mutual

/-- The pattern with the rows in it in reverse order. -/
def backward : Pattern → Pattern
  | repeated p least most greedy => repeated p.backward least most greedy
  | group i p => group i p.backward
  | sequence ps => sequence (backwardRow [] ps)
  | choice ps => choice (backwardRow [] ps).reverse
  | p => p

/-- Turns patterns, and their order, around, in front of those done before. -/
def backwardRow (done : List Pattern) : List Pattern → List Pattern
  | [] => done
  | p :: ps => backwardRow (p.backward :: done) ps

end

end Pattern

end RowFilter
