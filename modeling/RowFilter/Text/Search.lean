/-!
Occurrences of one text in another. Texts are compared character by character under a relation
`same`, equality or equality up to case. An occurrence found from left to right never overlaps
the one before it; a text can be cut at these occurrences, or have them replaced.
-/

namespace RowFilter.Text

/-- The text `s` begins with `d`. -/
def startsWith (same : Char → Char → Bool) : List Char → List Char → Bool
  | [], _ => true
  | _ :: _, [] => false
  | a :: d, b :: s => same a b && startsWith same d s

def endsWith (same : Char → Char → Bool) (d s : List Char) : Bool :=
  startsWith same d.reverse s.reverse

/-- The first position at which `d` occurs. -/
def indexOf? (same : Char → Char → Bool) (d : List Char) : List Char → Option Nat
  | [] => if d.isEmpty then some 0 else none
  | c :: s => if startsWith same d (c :: s) then some 0 else (indexOf? same d s).map (· + 1)

/-- The last position at which `d` occurs. -/
def lastIndexOf? (same : Char → Char → Bool) (d : List Char) : List Char → Option Nat
  | [] => if d.isEmpty then some 0 else none
  | c :: s =>
    match lastIndexOf? same d s with
    | some i => some (i + 1)
    | none => if startsWith same d (c :: s) then some 0 else none

/-- Positions of the occurrences of a non-empty `d`, the text starting at `position` and its
first `skip` characters belonging to an occurrence that was already counted. -/
def occurrencesFrom (same : Char → Char → Bool) (d : List Char) (position skip : Nat) :
    List Char → List Nat
  | [] => []
  | c :: s =>
    if skip ≠ 0 then occurrencesFrom same d (position + 1) (skip - 1) s
    else if startsWith same d (c :: s) then
      position :: occurrencesFrom same d (position + 1) (d.length - 1) s
    else occurrencesFrom same d (position + 1) 0 s

/-- Positions of the occurrences of a non-empty `d`, from left to right. -/
def occurrences (same : Char → Char → Bool) (d s : List Char) : List Nat :=
  occurrencesFrom same d 0 0 s

/-- The parts of a text between occurrences of `d`; `part` is, in reverse, what the first part
has so far, and the next `skip` characters belong to an occurrence. -/
def splitFrom (same : Char → Char → Bool) (d : List Char) (part : List Char) (skip : Nat) :
    List Char → List (List Char)
  | [] => [part.reverse]
  | c :: s =>
    if skip ≠ 0 then splitFrom same d part (skip - 1) s
    else if startsWith same d (c :: s) then
      part.reverse :: splitFrom same d [] (d.length - 1) s
    else splitFrom same d (c :: part) 0 s

/-- The parts of a text between the occurrences of a non-empty `d`. -/
def split (same : Char → Char → Bool) (d s : List Char) : List (List Char) :=
  splitFrom same d [] 0 s

/-- The text with `r` for every occurrence of `d`, the next `skip` characters left out. -/
def replaceFrom (same : Char → Char → Bool) (d r : List Char) (skip : Nat) :
    List Char → List Char
  | [] => []
  | c :: s =>
    if skip ≠ 0 then replaceFrom same d r (skip - 1) s
    else if startsWith same d (c :: s) then r ++ replaceFrom same d r (d.length - 1) s
    else c :: replaceFrom same d r 0 s

/-- The text with `r` in place of every occurrence of a non-empty `d`. -/
def replace (same : Char → Char → Bool) (d r s : List Char) : List Char :=
  replaceFrom same d r 0 s

theorem startsWith_eq_isPrefixOf (d s : List Char) :
    startsWith (· == ·) d s = d.isPrefixOf s := by
  fun_induction startsWith (· == ·) d s <;> simp_all [List.isPrefixOf]

end RowFilter.Text
