import RowFilter.Guid
import RowFilter.Pattern.Basic
import RowFilter.Pattern.Named
import RowFilter.Text.Blank
import RowFilter.Text.CaseFold

/-!
The parts of written patterns that stand for one character, one set or one condition: plain
characters, escapes and property names. What they stand for depends on the modes in force. In
spaced mode blanks and comments may stand almost everywhere, even inside an escape.
-/

namespace RowFilter

namespace Pattern

open Text (CharSet)

/-- The modes that a pattern can set for a part of itself. -/
structure Modes where
  ignoreCase : Bool := false
  multiLine : Bool := false
  dotAll : Bool := false
  swapGreed : Bool := false
  unicode : Bool := true
  spaced : Bool := false
  anyLine : Bool := false
deriving DecidableEq, Repr

/-- What was read, and the text after it, shorter than `bound`. -/
structure Read (α : Type) (bound : Nat) where
  value : α
  rest : List Char
  shorter : rest.length < bound

namespace Read

theorem length_lt (s : List Char) : s.length < s.length + 1 := Nat.lt_succ_self s.length

theorem length_le (s : List Char) : s.length ≤ s.length + 1 := Nat.le_succ s.length

def weaken {α : Type} {a b : Nat} (r : Read α a) (h : a ≤ b) : Read α b :=
  { r with shorter := Nat.lt_of_lt_of_le r.shorter h }

/-- The same result with `n` more characters before it. -/
def behind {α : Type} {bound : Nat} (r : Read α bound) (n : Nat) : Read α (bound + n) :=
  r.weaken (Nat.le_add_right bound n)

def map {α β : Type} {n : Nat} (f : α → β) (r : Read α n) : Read β n :=
  { r with value := f r.value }

/-- Replaces the value if there is another for it. -/
def filterMap {α β : Type} {n : Nat} (f : α → Option β) (r : Read α n) : Option (Read β n) :=
  (f r.value).map fun b => { r with value := b }

end Read

/-- What a single written item stands for. -/
inductive Atom where
  | character (c : Char)
  /-- A byte above ASCII, which is no character by itself outside Unicode mode. -/
  | byte (c : Char)
  | set (s : CharSet)
  | look (l : Look)

/-! ## Blanks and comments -/

theorem length_dropWhile_le (p : Char → Bool) (s : List Char) :
    (s.dropWhile p).length ≤ s.length :=
  (List.dropWhile_suffix (l := s) p).length_le

/-- Passes over blanks and over comments from a number sign to the line's end. -/
def skipComments (s : List Char) : List Char :=
  match s with
  | [] => []
  | c :: r =>
    if Text.isBlank c then skipComments r
    else if c = '#' then skipComments (r.dropWhile (· ≠ '\n'))
    else s
termination_by s.length
decreasing_by
  · simp
  · have := length_dropWhile_le (· ≠ '\n') r
    simp only [List.length_cons]
    omega

theorem length_skipComments_le (s : List Char) : (skipComments s).length ≤ s.length := by
  fun_induction skipComments s with
  | case1 => simp
  | case2 c r _ ih => simp only [List.length_cons]; omega
  | case3 r _ ih =>
    have := length_dropWhile_le (· ≠ '\n') r
    simp only [List.length_cons]
    omega
  | case4 => simp

/-- Passes over blanks and comments in spaced mode. -/
def skipSpace (m : Modes) (s : List Char) : List Char :=
  if m.spaced then skipComments s else s

theorem length_skipSpace_le (m : Modes) (s : List Char) :
    (skipSpace m s).length ≤ s.length := by
  unfold skipSpace
  split
  · exact length_skipComments_le s
  · exact Nat.le_refl _

/-- The next character that is not passed over. -/
def nextChar? (m : Modes) (s : List Char) : Option (Read Char s.length) :=
  match h : skipSpace m s with
  | [] => none
  | c :: r => some ⟨c, r, by
      have := length_skipSpace_le m s
      rw [h] at this
      exact this⟩

/-! ## Characters by their code -/

/-- The character with a code, if there is one. -/
def charOfCode? (n : Nat) : Option Char :=
  if n.isValidChar then some (Char.ofNat n) else none

/-- A code with one more digit. Past the last character all codes are alike. -/
def appendHex (n : Nat) (d : Char) : Nat :=
  min (16 * n + (Guid.hexValue? d).getD 0) 0x110000

/-- Reads some more digits of a code. -/
def readDigits? (m : Modes) (count code : Nat) (s : List Char) :
    Option (Read Nat (s.length + 1)) :=
  match count with
  | 0 => some ⟨code, s, Nat.lt_succ_self _⟩
  | count + 1 =>
    match nextChar? m s with
    | none => none
    | some ⟨c, r, h⟩ =>
      if Guid.isHexDigit c then (readDigits? m count (appendHex code c) r).map (·.weaken (by omega))
      else none

/-- Reads the digits of a code, if there are any, and a closing brace. -/
def readBracedDigits? (m : Modes) (bound : Nat) (code : Option Nat) (s : List Char)
    (hs : s.length ≤ bound) : Option (Read Nat bound) :=
  match nextChar? m s with
  | none => none
  | some ⟨c, r, h⟩ =>
    if c = '\x7d' then code.map (⟨·, r, by omega⟩)
    else if Guid.isHexDigit c then
      readBracedDigits? m bound (some (appendHex (code.getD 0) c)) r (by omega)
    else none
termination_by s.length

/-- Reads the code after `x`, `u` or `U`: a fixed number of hexadecimal digits, or digits in
braces. Two digits without braces stand for a byte. -/
def readCode? (m : Modes) (digits : Nat) (s : List Char) : Option (Read Atom (s.length + 1)) :=
  match nextChar? m s with
  | some ⟨'\x7b', r, h⟩ =>
    (readBracedDigits? m r.length none r (Nat.le_refl _)).bind fun n =>
      ((n.filterMap charOfCode?).map (·.map .character)).map (·.weaken (by omega))
  | _ =>
    (readDigits? m digits 0 s).bind fun n =>
      (n.filterMap charOfCode?).map (·.map fun c =>
        if digits = 2 && 0x80 ≤ c.toNat then .byte c else .character c)

/-! ## Sets -/

def folded (m : Modes) (s : CharSet) : CharSet :=
  if m.ignoreCase then (if m.unicode then s.folded else s.foldedAscii) else s

/-- A set or its complement under the modes. Outside Unicode mode complements would hold bytes
that are no characters. -/
def finishSet? (m : Modes) (negated : Bool) (s : CharSet) : Option CharSet :=
  if negated then (if m.unicode then some (folded m s).complement else none)
  else some (folded m s)

/-- The set of a class letter such as `d`, its capital standing for the complement. -/
def classLetter? (m : Modes) (c : Char) : Option CharSet :=
  (classSet? m.unicode c.toLower).bind fun s =>
    if c.isUpper then (if m.unicode then some s.complement else none) else some s

/-- Reads a name up to a closing brace, `name` being read before, in reverse. -/
def readBracedName? (m : Modes) (bound : Nat) (name : List Char) (s : List Char)
    (hs : s.length ≤ bound) : Option (Read (List Char) bound) :=
  match nextChar? m s with
  | none => none
  | some ⟨c, r, h⟩ =>
    if c = '\x7d' then some ⟨name.reverse, r, by omega⟩
    else readBracedName? m bound (c :: name) r (by omega)
termination_by s.length

/-- Reads a property after `p` or `P`: one letter, or a text in braces. -/
def readProperty? (m : Modes) (negated : Bool) (s : List Char) : Option (Read Atom s.length) :=
  let text? : Option (Read (List Char) s.length) :=
    match nextChar? m s with
    | none => none
    | some ⟨c, r, h⟩ =>
      if c = '\x7b' then (readBracedName? m s.length [] r (by omega))
      else if c = '\\' then none
      else some ⟨[c], r, h⟩
  if !m.unicode then none
  else text?.bind fun text =>
    (text.filterMap fun name =>
      (propertySet? name).bind fun (inverted, s) => finishSet? m (negated != inverted) s).map
        (·.map .set)

/-! ## Conditions -/

def wordKind (m : Modes) : WordKind :=
  if m.unicode then .all else .ascii

/-- The condition that a name in braces stands for. -/
def boundary? (k : WordKind) (name : List Char) : Option Look :=
  match String.ofList name with
  | "start" => some (.wordStart k)
  | "end" => some (.wordEnd k)
  | "start-half" => some (.wordStartHalf k)
  | "end-half" => some (.wordEndHalf k)
  | _ => none

def isBoundaryLetter (c : Char) : Bool :=
  c.isAlpha || c = '-'

/-- Reads a kind of word boundary in braces, if that is what the braces hold. Braces that begin
with another character are a repetition count. -/
def readBoundary? (m : Modes) (s : List Char) : Option (Read Atom (s.length + 1)) :=
  let plain : Atom := .look (.wordBoundary (wordKind m))
  match s with
  | '\x7b' :: r =>
    match nextChar? m r with
    | none => none
    | some next =>
      if isBoundaryLetter next.value then
        (readBracedName? m r.length [] r (Nat.le_refl _)).bind fun name =>
          (name.filterMap (boundary? (wordKind m))).map fun l =>
            (l.map .look).weaken (by simp only [List.length_cons]; omega)
      else some ⟨plain, '\x7b' :: r, Nat.lt_succ_self _⟩
  | s => some ⟨plain, s, Nat.lt_succ_self _⟩

/-! ## Escapes -/

/-- ASCII characters that stand for themselves after a backslash: all but letters, digits and
angle brackets. -/
def isEscapable (c : Char) : Bool :=
  c.toNat < 0x80 && !c.isAlphanum && c ≠ '<' && c ≠ '>'

/-- The control character that an escape letter stands for. -/
def controlLetter? : Char → Option Char
  | 'a' => some '\x07'
  | 'f' => some '\x0c'
  | 't' => some '\t'
  | 'n' => some '\n'
  | 'r' => some '\r'
  | 'v' => some '\x0b'
  | _ => none

/-- Reads what follows a backslash. -/
def readEscape? (m : Modes) (s : List Char) : Option (Read Atom s.length) :=
  match s with
  | [] => none
  | c :: r =>
    let plain (a : Atom) : Option (Read Atom (c :: r).length) := some ⟨a, r, by simp⟩
    match c with
    | 'x' => readCode? m 2 r
    | 'u' => readCode? m 4 r
    | 'U' => readCode? m 8 r
    | 'p' => (readProperty? m false r).map (·.weaken (by simp))
    | 'P' => (readProperty? m true r).map (·.weaken (by simp))
    | 'b' => readBoundary? m r
    | 'B' => plain (.look (.notWordBoundary (wordKind m)))
    | '<' => plain (.look (.wordStart (wordKind m)))
    | '>' => plain (.look (.wordEnd (wordKind m)))
    | 'A' => plain (.look .textStart)
    | 'z' => plain (.look .textEnd)
    | _ =>
      if isEscapable c then plain (.character c)
      else match classLetter? m c, controlLetter? c with
        | some t, _ => plain (.set t)
        | none, some k => plain (.character k)
        | none, none => none

end Pattern

end RowFilter
