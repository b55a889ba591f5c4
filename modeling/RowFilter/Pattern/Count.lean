import RowFilter.Number.Power
import RowFilter.Pattern.Escape

/-!
How often an item of a pattern is repeated: a mark, or counts in braces.
-/

namespace RowFilter

namespace Pattern

/-- How often an item is repeated: at least and at most so many times. -/
structure Count where
  least : Nat
  most : Option Nat

/-- Passes over blanks, and over comments in spaced mode. -/
def skipBlanks (m : Modes) (s : List Char) : List Char :=
  if m.spaced then skipComments s else s.dropWhile Text.isBlank

theorem length_skipBlanks_le (m : Modes) (s : List Char) :
    (skipBlanks m s).length ≤ s.length := by
  unfold skipBlanks
  split
  · exact length_skipComments_le s
  · exact length_dropWhile_le _ s

/-- No number as large as this is a count. -/
def countLimit : Nat := twoTo 32

/-- Reads the digits of a number that began with `n`. -/
def readDecimal (m : Modes) (bound n : Nat) (s : List Char) (hs : s.length ≤ bound) :
    Read Nat (bound + 1) :=
  match s with
  | c :: r =>
    if c.isDigit then
      readDecimal m bound (min (10 * n + (c.toNat - '0'.toNat)) countLimit) (skipSpace m r) (by
        have := length_skipSpace_le m r
        simp only [List.length_cons] at hs
        omega)
    else ⟨n, c :: r, Nat.lt_succ_of_le hs⟩
  | [] => ⟨n, [], Nat.succ_pos _⟩
termination_by s.length
decreasing_by
  have := length_skipSpace_le m r
  simp only [List.length_cons]
  omega

/-- Reads a number with blanks around it. -/
def readNumber? (m : Modes) (s : List Char) : Option (Read Nat (s.length + 1)) :=
  let t := skipBlanks m s
  if t.head?.any Char.isDigit then
    let number := readDecimal m s.length 0 t (length_skipBlanks_le m s)
    if number.value < countLimit then
      some ⟨number.value, skipBlanks m number.rest, by
        have := length_skipBlanks_le m number.rest
        have := number.shorter
        omega⟩
    else none
  else none

/-- Reads a count in braces after their opening. -/
def readBraces? (m : Modes) (s : List Char) : Option (Read Count s.length) :=
  match readNumber? m s with
  | some ⟨n, '\x7d' :: rest, h⟩ => some ⟨⟨n, some n⟩, rest, by
      simp only [List.length_cons] at h
      omega⟩
  | some ⟨n, ',' :: r, h⟩ =>
    match nextChar? m r with
    | some ⟨'\x7d', rest, hr⟩ => some ⟨⟨n, none⟩, rest, by
        simp only [List.length_cons] at h
        omega⟩
    | _ =>
      match readNumber? m r with
      | some ⟨k, '\x7d' :: rest, hr⟩ =>
        if n ≤ k then some ⟨⟨n, some k⟩, rest, by
          simp only [List.length_cons] at h hr
          omega⟩
        else none
      | _ => none
  | _ => none

/-- Reads a repetition mark after its first character. -/
def readCount? (m : Modes) (c : Char) (s : List Char) : Option (Read Count (s.length + 1)) :=
  match c with
  | '*' => some ⟨⟨0, none⟩, s, Read.length_lt s⟩
  | '+' => some ⟨⟨1, none⟩, s, Read.length_lt s⟩
  | '?' => some ⟨⟨0, some 1⟩, s, Read.length_lt s⟩
  | _ => (readBraces? m s).map fun count =>
      ⟨count.value, skipSpace m count.rest, by
        have := length_skipSpace_le m count.rest
        have := count.shorter
        omega⟩

/-- Reads a repetition mark after its first character, and whether it takes as much as it can. A
question mark behind it turns that around. -/
def readRepetition? (m : Modes) (c : Char) (s : List Char) :
    Option (Read (Count × Bool) (s.length + 1)) :=
  (readCount? m c s).map fun
    | ⟨count, '?' :: rest, h⟩ => ⟨(count, m.swapGreed), rest, by
        simp only [List.length_cons] at h
        omega⟩
    | ⟨count, rest, h⟩ => ⟨(count, !m.swapGreed), rest, h⟩

end Pattern

end RowFilter
