import RowFilter.Guid
import RowFilter.Text.Newest

/-!
Texts in double quotes, for inspection. Quotes, backslashes and characters that cannot be seen or
that attach to the one before them are escaped.
-/

namespace RowFilter.Text

/-- What is seen as it is: a character with a glyph of its own. Marks that attach to the character
before are not, except the two of half width; the fillers of Korean syllables are blank. -/
def visible : CharSet :=
  printable.difference
    (.unionAll [attachedMarks.difference (.ofText "FF9E-FF9F"), .ofText "115F-1160 3164 FFA0"])

/-- The digits of a number in hexadecimal, without zeros in front. -/
def hexText (n : Nat) : List Char :=
  Nat.toDigits 16 n

def escaped (c : Char) : List Char :=
  match c with
  | '\x00' => ['\\', '0']
  | '\t' => ['\\', 't']
  | '\r' => ['\\', 'r']
  | '\n' => ['\\', 'n']
  | '\\' => ['\\', '\\']
  | '"' => ['\\', '"']
  | c =>
    if visible.contains c then [c]
    else ['\\', 'u', '\x7b'] ++ hexText c.toNat ++ ['\x7d']

/-- The text in quotes. -/
def quoted (s : List Char) : List Char :=
  '"' :: s.flatMap escaped ++ ['"']

end RowFilter.Text
