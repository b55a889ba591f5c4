import RowFilter.Text.CaseContext
import RowFilter.Text.CaseTable

/-!
Case mappings over the whole character set. A letter is mapped by itself, possibly to several
letters; a text is mapped letter by letter, except that a capital sigma becomes a final sigma at
the end of a word. Texts are compared without regard to case through the letter mapping alone.
-/

namespace RowFilter.Text

/-- The letter a run moves `n` to. -/
def shifted (r : CaseRun) (n : Nat) : Char :=
  Char.ofNat (n + r.shift).toNat

/-- The full lowercase mapping of one letter. -/
def lowerChar (c : Char) : List Char :=
  if c.toNat < 0x80 then [c.toLower]
  else if c = '\u0130' then ['i', '\u0307']
  else match lowerRuns.find? (·.covers c.toNat) with
    | some r => [shifted r c.toNat]
    | none => [c]

/-- The full uppercase mapping of one letter. -/
def upperChar (c : Char) : List Char :=
  if c.toNat < 0x80 then [c.toUpper]
  else match upperExpansions.lookup c with
    | some cs => cs
    | none => match upperRuns.find? (·.covers c.toNat) with
      | some r => [shifted r c.toNat]
      | none => [c]

/-- Letter by letter, whatever the neighbours. -/
def foldCase (s : List Char) : List Char :=
  s.flatMap lowerChar

/-- The first character that is not passed over has case. -/
def meetsCased (s : List Char) : Bool :=
  match s.dropWhile isCaseIgnorable with
  | [] => false
  | c :: _ => isCased c

/-- Lowercase of a text whose part before `s` is, in reverse, `before`. -/
def lowerAfter (before : List Char) : List Char → List Char
  | [] => []
  | c :: rest =>
    let mapped :=
      if c = 'Σ' then
        if meetsCased before && !meetsCased rest then ['ς'] else ['σ']
      else lowerChar c
    mapped ++ lowerAfter (c :: before) rest

/-- Lowercase of a whole text: a capital sigma at the end of a word becomes a final sigma. -/
def lower (s : List Char) : List Char :=
  lowerAfter [] s

def upper (s : List Char) : List Char :=
  s.flatMap upperChar

/-- The order of two texts by code point. -/
def compareChars : List Char → List Char → Ordering
  | [], [] => .eq
  | [], _ :: _ => .lt
  | _ :: _, [] => .gt
  | a :: s, b :: t => (compare a.toNat b.toNat).then (compareChars s t)

/-- The order of two texts without regard to case. -/
def compareFolded (s t : List Char) : Ordering :=
  compareChars (foldCase s) (foldCase t)

/-- ASCII letters in lowercase, all else as it is. -/
def lowerAscii (s : List Char) : List Char :=
  s.map Char.toLower

theorem lowerChar_of_ascii {c : Char} (h : c.toNat < 0x80) : lowerChar c = [c.toLower] := by
  simp [lowerChar, h]

@[simp] theorem foldCase_nil : foldCase [] = [] := rfl

@[simp] theorem foldCase_cons (c : Char) (s : List Char) :
    foldCase (c :: s) = lowerChar c ++ foldCase s := rfl

@[simp] theorem foldCase_append (s t : List Char) :
    foldCase (s ++ t) = foldCase s ++ foldCase t := by
  simp [foldCase]

end RowFilter.Text
