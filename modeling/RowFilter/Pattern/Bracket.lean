import RowFilter.Pattern.Escape

/-!
Bracketed sets: characters, ranges, named sets and nested brackets, joined or combined by
intersection, difference and symmetric difference. Beside its set, the depth of a bracket is kept:
how deeply brackets, lists of members and combinations are nested in it.
-/

namespace RowFilter

namespace Pattern

open Text (CharSet NamedSet)

/-! ## Combinations -/

/-- The ways to combine what stands before and after a doubled mark in brackets. -/
inductive SetOperation where
  | intersection
  | difference
  | symmetricDifference
deriving DecidableEq, Repr

def SetOperation.apply : SetOperation → CharSet → CharSet → CharSet
  | intersection => .intersection
  | difference => .difference
  | symmetricDifference => .symmetricDifference

/-- The combination that a doubled mark stands for. -/
def SetOperation.ofMark? : Char → Option SetOperation
  | '&' => some intersection
  | '-' => some difference
  | '~' => some symmetricDifference
  | _ => none

/-- A set and the depth of its written form. -/
structure NestedSet where
  set : CharSet
  depth : Nat

/-! ## Open brackets -/

/-- The members that stand side by side, with their number and the depth of the deepest. -/
structure Members where
  ranges : List (Nat × Nat) := []
  count : Nat := 0
  deepest : Nat := 0

namespace Members

def addRange (ms : Members) (a b : Char) : Members :=
  { ms with ranges := (a.toNat, b.toNat) :: ms.ranges, count := ms.count + 1 }

def add (ms : Members) (s : NestedSet) : Members :=
  ⟨s.set.ranges.foldl (fun rs r => r :: rs) ms.ranges, ms.count + 1, max ms.deepest s.depth⟩

/-- The union of the members. Several members are one level above them. -/
def union (ms : Members) : NestedSet :=
  ⟨.ofRanges ms.ranges, if 1 < ms.count then ms.deepest + 1 else ms.deepest⟩

end Members

/-- A bracket that is being read: a combination that waits for its right side, and the members
since the bracket was opened or since the last mark. -/
structure OpenBracket where
  negated : Bool
  waiting : Option (SetOperation × NestedSet) := none
  members : Members := {}

namespace OpenBracket

def add (b : OpenBracket) (s : NestedSet) : OpenBracket :=
  { b with members := b.members.add s }

/-- What has been read, the waiting combination being completed. -/
def combined (m : Modes) (b : OpenBracket) : NestedSet :=
  let right := b.members.union
  match b.waiting with
  | none => right
  | some (operation, left) =>
    ⟨operation.apply (folded m left.set) (folded m right.set), max left.depth right.depth + 1⟩

/-- Begins the right side of a combination. -/
def combine (m : Modes) (b : OpenBracket) (operation : SetOperation) : OpenBracket :=
  { negated := b.negated, waiting := some (operation, b.combined m) }

def close? (m : Modes) (b : OpenBracket) : Option NestedSet :=
  let inner := b.combined m
  (finishSet? m b.negated inner.set).map (⟨·, inner.depth + 1⟩)

end OpenBracket

/-! ## Members -/

/-- Reads one character, escape or set inside brackets. -/
def readMember? (m : Modes) (s : List Char) : Option (Read Atom s.length) :=
  match s with
  | '\\' :: r => (readEscape? m r).map (·.weaken (Read.length_le r))
  | c :: r => some ⟨.character c, r, Read.length_lt r⟩
  | [] => none

/-- The character of a member. Outside Unicode mode there are those of ASCII only. -/
def memberChar? (m : Modes) : Atom → Option Char
  | .character c | .byte c => if m.unicode || c.toNat < 0x80 then some c else none
  | _ => none

/-- The set of a member. Conditions are no members. -/
def memberSet? (m : Modes) : Atom → Option CharSet
  | .set t => some t
  | a => (memberChar? m a).map .single

/-- Reads a name such as `alpha:]` after an opening bracket and a colon. -/
def readAsciiName? (s : List Char) : Option (Read CharSet s.length) :=
  match h : s.dropWhile (· ≠ ':') with
  | ':' :: ']' :: rest =>
    (NamedSet.find? asciiSets (String.ofList (s.takeWhile (· ≠ ':')))).map (⟨·, rest, by
      have := length_dropWhile_le (· ≠ ':') s
      rw [h] at this
      simp only [List.length_cons] at this
      omega⟩)
  | _ => none

/-- Reads a name in colons after an opening bracket, and whether its complement is meant. -/
def readAsciiSet? (s : List Char) : Option (Read (Bool × CharSet) s.length) :=
  match s with
  | ':' :: '^' :: r =>
    (readAsciiName? r).map fun t => (t.map (true, ·)).weaken (by simp only [List.length_cons]; omega)
  | ':' :: r =>
    (readAsciiName? r).map fun t => (t.map (false, ·)).weaken (Read.length_le r)
  | _ => none

/-- The character that decides what a hyphen before `r` means. In spaced mode blanks are passed
over, and a number sign once, but no text of a comment. -/
def charAfterHyphen? (m : Modes) (r : List Char) : Option Char :=
  if m.spaced then
    let t := match r.dropWhile Text.isBlank with
      | '#' :: t => t.dropWhile Text.isBlank
      | t => t
    t.head?.or r.head?
  else r.head?

/-- Reads a member, or a range between two of them. A hyphen before a closing bracket or before
another hyphen makes no range. -/
def readRange? (m : Modes) (s : List Char) : Option (Read CharSet s.length) :=
  match readMember? m s with
  | none => none
  | some ⟨first, rest, shorter⟩ =>
    match nextChar? m rest with
    | none => none
    | some ⟨c, r, hr⟩ =>
      let alone := c ≠ '-' || charAfterHyphen? m r = some ']' || charAfterHyphen? m r = some '-'
      if alone then (memberSet? m first).map (⟨·, rest, shorter⟩)
      else
        match memberChar? m first, readMember? m (skipSpace m r) with
        | some a, some ⟨last, rest, hl⟩ =>
          match memberChar? m last with
          | some b =>
            if a ≤ b then
              some ⟨.between a b, rest, by have := length_skipSpace_le m r; omega⟩
            else none
          | none => none
        | _, _ => none

/-! ## Brackets -/

/-- Reads hyphens that stand for themselves at the start of a bracket. -/
def readHyphens (m : Modes) (bound : Nat) (ms : Members) (s : List Char) (hs : s.length ≤ bound) :
    Read Members (bound + 1) :=
  match s with
  | c :: r =>
    if c = '-' then
      readHyphens m bound (ms.addRange '-' '-') (skipSpace m r) (by
        have := length_skipSpace_le m r
        simp only [List.length_cons] at hs
        omega)
    else ⟨ms, c :: r, Nat.lt_succ_of_le hs⟩
  | [] => ⟨ms, [], Nat.lt_succ_of_le hs⟩
termination_by s.length
decreasing_by
  have := length_skipSpace_le m r
  simp only [List.length_cons]
  omega

/-- Reads whether a bracket is negated. -/
def readCaret (m : Modes) (s : List Char) : Read Bool (s.length + 1) :=
  match h : skipSpace m s with
  | '^' :: r => ⟨true, r, by
      have := length_skipSpace_le m s
      rw [h] at this
      simp only [List.length_cons] at this
      omega⟩
  | _ => ⟨false, s, Read.length_lt s⟩

/-- Reads the start of a bracket after its opening: whether it is negated, and the members that
stand for themselves only there. -/
def readOpening (m : Modes) (s : List Char) : Read OpenBracket (s.length + 1) :=
  let caret := readCaret m s
  let hyphens := readHyphens m s.length {} (skipSpace m caret.rest) (by
    have := length_skipSpace_le m caret.rest
    have := caret.shorter
    omega)
  match hyphens with
  | ⟨⟨ranges, 0, deepest⟩, ']' :: r, h⟩ =>
    ⟨{ negated := caret.value, members := Members.addRange ⟨ranges, 0, deepest⟩ ']' ']' }, r, by
      simp only [List.length_cons] at h
      omega⟩
  | ⟨ms, rest, h⟩ => ⟨{ negated := caret.value, members := ms }, rest, h⟩

/-- The combination that the next two characters stand for. -/
def operationAhead? (c : Char) (r : List Char) : Option SetOperation :=
  if r.head? = some c then SetOperation.ofMark? c else none

/-- Reads the members of a bracket up to its end, the brackets around it being open. -/
def readMembers? (m : Modes) (bound : Nat) (b : OpenBracket) (outer : List OpenBracket)
    (s : List Char) (hs : s.length ≤ bound) : Option (Read NestedSet bound) :=
  match nextChar? m s with
  | none => none
  | some ⟨c, r, h⟩ =>
    if c = ']' then
      match b.close? m, outer with
      | none, _ => none
      | some whole, [] => some ⟨whole, r, by omega⟩
      | some whole, o :: outer => readMembers? m bound (o.add whole) outer r (by omega)
    else if c = '[' then
      match readAsciiSet? r with
      | some ⟨(negated, t), rest, hr⟩ =>
        match finishSet? m negated t with
        | some t => readMembers? m bound (b.add ⟨t, 0⟩) outer rest (by omega)
        | none => none
      | none =>
        let opening := readOpening m r
        readMembers? m bound opening.value (b :: outer) opening.rest (by
          have := opening.shorter
          omega)
    else
      match operationAhead? c r with
      | some operation =>
        readMembers? m bound (b.combine m operation) outer (r.drop 1) (by
          simp only [List.length_drop]
          omega)
      | none =>
        match readRange? m (c :: r) with
        | some ⟨t, rest, hr⟩ =>
          readMembers? m bound (b.add ⟨t, 0⟩) outer rest (by
            simp only [List.length_cons] at hr
            omega)
        | none => none
termination_by s.length
decreasing_by
  · exact h
  · omega
  · have := (readOpening m r).shorter
    omega
  · simp only [List.length_drop]
    omega
  · simp only [List.length_cons] at hr
    omega

/-- Reads a bracket after its opening. -/
def readBracket? (m : Modes) (s : List Char) : Option (Read NestedSet (s.length + 1)) :=
  let opening := readOpening m s
  readMembers? m (s.length + 1) opening.value [] opening.rest (Nat.le_of_lt opening.shorter)

end Pattern

end RowFilter
