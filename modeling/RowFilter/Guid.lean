import RowFilter.Text.Blank
import RowFilter.Text.CaseMap

/-!
Globally unique identifiers: numbers of 128 bits, written as 32 hexadecimal digits in five groups.
-/

namespace RowFilter

/-- The identifier as one number; its first digit is the most significant one. -/
structure Guid where
  number : BitVec 128
deriving DecidableEq, Repr

namespace Guid

/-- Order by the digits from left to right. -/
def compare (a b : Guid) : Ordering := Ord.compare a.number.toNat b.number.toNat

/-! ## Text -/

/-- The hexadecimal digit of a number below sixteen, in lowercase. -/
def hexDigit (n : Nat) : Char :=
  if n < 10 then Char.ofNat (n + '0'.toNat) else Char.ofNat (n - 10 + 'a'.toNat)

/-- The value of a hexadecimal digit in either case. -/
def hexValue? (c : Char) : Option Nat :=
  if '0' ≤ c ∧ c ≤ '9' then some (c.toNat - '0'.toNat)
  else if 'a' ≤ c ∧ c ≤ 'f' then some (c.toNat - 'a'.toNat + 10)
  else if 'A' ≤ c ∧ c ≤ 'F' then some (c.toNat - 'A'.toNat + 10)
  else none

def isHexDigit (c : Char) : Bool := (hexValue? c).isSome

/-- The last `count` hexadecimal digits of a number. -/
def hexDigits (n : Nat) : (count : Nat) → List Char
  | 0 => []
  | count + 1 => hexDigits (n / 16) count ++ [hexDigit (n % 16)]

/-- Groups of 8, 4, 4, 4 and 12 digits with hyphens between them. -/
def hyphenate (ds : List Char) : List Char :=
  ds.take 8 ++ '-' :: (ds.drop 8).take 4 ++ '-' :: (ds.drop 12).take 4 ++
    '-' :: (ds.drop 16).take 4 ++ '-' :: ds.drop 20

def text (g : Guid) : List Char := hyphenate (hexDigits g.number.toNat 32)

/-! ## Reading -/

/-- Reads 32 hexadecimal digits. -/
def ofDigits? (s : List Char) : Option Guid :=
  if s.length = 32 ∧ s.all isHexDigit then
    some ⟨BitVec.ofNat 128 (s.foldl (fun n c => 16 * n + (hexValue? c).getD 0) 0)⟩
  else none

/-- Reads the hyphenated form. -/
def ofHyphenated? (s : List Char) : Option Guid :=
  let ds := s.filter (· ≠ '-')
  if s = hyphenate ds then ofDigits? ds else none

/-- What follows `urn:uuid:`, in any case. -/
def afterUrn? (s : List Char) : Option (List Char) :=
  if Text.lowerAscii (s.take 9) = "urn:uuid:".toList then some (s.drop 9) else none

/-- The text between a pair of braces around it. -/
def withinBraces? : List Char → Option (List Char)
  | '\x7b' :: s => if s.getLast? = some '\x7d' then some s.dropLast else none
  | _ => none

/-- Reads one of the forms: plain digits, hyphenated, hyphenated in braces, hyphenated with a URN
label. -/
def ofForm? (s : List Char) : Option Guid :=
  if s.length = 32 then ofDigits? s
  else match withinBraces? s with
    | some inner => ofHyphenated? inner
    | none => ofHyphenated? ((afterUrn? s).getD s)

/-- Reads an identifier with blanks, then single quotes, then one pair of braces around it. -/
def read? (s : List Char) : Option Guid :=
  let isQuote (c : Char) : Bool := c = '\x27'
  let bare := (((Text.trim s).dropWhile isQuote).reverse.dropWhile isQuote).reverse
  ofForm? ((withinBraces? bare).getD bare)

end Guid

end RowFilter
