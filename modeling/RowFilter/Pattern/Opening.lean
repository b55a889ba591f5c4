import RowFilter.Pattern.Escape
import RowFilter.Text.Newest

/-!
What an opening parenthesis begins: a group, possibly with a name, a part with modes of its own, or
a change of modes for what follows.
-/

namespace RowFilter

namespace Pattern

/-! ## Modes -/

/-- A mode by its letter. -/
inductive ModeLetter where
  | ignoreCase
  | multiLine
  | dotAll
  | swapGreed
  | unicode
  | spaced
  | anyLine
deriving DecidableEq, Repr

def ModeLetter.ofChar? : Char → Option ModeLetter
  | 'i' => some ignoreCase
  | 'm' => some multiLine
  | 's' => some dotAll
  | 'U' => some swapGreed
  | 'u' => some unicode
  | 'x' => some spaced
  | 'R' => some anyLine
  | _ => none

def Modes.set (m : Modes) (value : Bool) : ModeLetter → Modes
  | .ignoreCase => { m with ignoreCase := value }
  | .multiLine => { m with multiLine := value }
  | .dotAll => { m with dotAll := value }
  | .swapGreed => { m with swapGreed := value }
  | .unicode => { m with unicode := value }
  | .spaced => { m with spaced := value }
  | .anyLine => { m with anyLine := value }

/-- Sets modes by their letters, those after a hyphen being cleared. No letter may come twice, and
a hyphen has to be followed by a letter. -/
def setModes? (m : Modes) (value : Bool) (seen : List ModeLetter) : List Char → Option Modes
  | [] => some m
  | '-' :: rest => if value && !rest.isEmpty then setModes? m false seen rest else none
  | c :: rest =>
    match ModeLetter.ofChar? c with
    | some letter =>
      if seen.contains letter then none
      else setModes? (m.set value letter) value (letter :: seen) rest
    | none => none

/-! ## Openings -/

/-- What an opening parenthesis begins. -/
inductive Opening where
  /-- A group with a number, possibly with a name. -/
  | group (name : Option (List Char))
  /-- A part under modes of its own, without a number. -/
  | part (m : Modes)
  /-- No group but modes for what follows. -/
  | modes (m : Modes)

/-- A name of a group: a letter or an underscore, then letters, digits, underscores, points and
square brackets. -/
def isGroupName : List Char → Bool
  | [] => false
  | c :: rest =>
    (c = '_' || Text.isLetter c) &&
      rest.all fun c => c = '_' || c = '.' || c = '[' || c = ']' || Text.isLetter c ||
        Text.isNumber c

/-- Reads a group name up to its closing bracket. -/
def readName? (s : List Char) : Option (Read Opening s.length) :=
  match h : s.dropWhile (· ≠ '>') with
  | _ :: rest =>
    let name := s.takeWhile (· ≠ '>')
    if isGroupName name then
      some ⟨.group (some name), rest, by
        have := length_dropWhile_le (· ≠ '>') s
        rw [h] at this
        exact this⟩
    else none
  | [] => none

/-- Reads the letters of modes and what ends them: a colon before a part, or a closing parenthesis.
Modes that set nothing do not stand alone. -/
def readModes? (m : Modes) (s : List Char) : Option (Read Opening s.length) :=
  let isLetter (c : Char) : Bool := c ≠ ':' && c ≠ ')'
  match h : s.dropWhile isLetter with
  | [] => none
  | mark :: rest =>
    let letters := s.takeWhile isLetter
    if mark = ')' && letters.isEmpty then none
    else (setModes? m true [] letters).map fun m =>
      ⟨if mark = ':' then .part m else .modes m, rest, by
        have := length_dropWhile_le isLetter s
        rw [h] at this
        exact this⟩

/-- Reads what follows an opening parenthesis: a name, modes, or nothing of the kind. Conditions
on what lies around the group are refused. -/
def readOpeningMark? (m : Modes) (s : List Char) : Option (Read Opening (s.length + 1)) :=
  match s with
  | '?' :: 'P' :: '<' :: r => (readName? r).map (·.behind 4)
  | '?' :: '<' :: '=' :: _ | '?' :: '<' :: '!' :: _ => none
  | '?' :: '<' :: r => (readName? r).map (·.behind 3)
  | '?' :: r => (readModes? m r).map (·.behind 2)
  | s => some ⟨.group none, s, Read.length_lt s⟩

/-- Reads what an opening parenthesis begins, blanks being passed over. -/
def readGroupOpening? (m : Modes) (s : List Char) : Option (Read Opening (s.length + 1)) :=
  (readOpeningMark? m (skipSpace m s)).map
    (·.weaken (Nat.succ_le_succ (length_skipSpace_le m s)))

end Pattern

end RowFilter
