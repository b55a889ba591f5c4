/-!
Characters as bytes in UTF-8, and ranges of characters as sequences of byte ranges.
-/

namespace RowFilter.Text

/-- The bytes of a code point. -/
def utf8Bytes (n : Nat) : List Nat :=
  if n < 0x80 then [n]
  else if n < 0x800 then [0xC0 + n / 0x40, 0x80 + n % 0x40]
  else if n < 0x10000 then [0xE0 + n / 0x1000, 0x80 + n / 0x40 % 0x40, 0x80 + n % 0x40]
  else [0xF0 + n / 0x40000, 0x80 + n / 0x1000 % 0x40, 0x80 + n / 0x40 % 0x40, 0x80 + n % 0x40]

/-- Bytes from the first to the last. -/
structure ByteRange where
  first : Nat
  last : Nat
deriving DecidableEq, Repr

/-- Where a range of code points crosses the boundary of a block of the given size without filling
its blocks: the last code point before the place to cut it, and the first one after. -/
def cutAtBlock? (size a b : Nat) : Option (Nat × Nat) :=
  if a / size = b / size then none
  else if a % size ≠ 0 then some (a / size * size + size - 1, a / size * size + size)
  else if b % size ≠ size - 1 then some (b / size * size - 1, b / size * size)
  else none

/-- Where a range crosses from one number of bytes to the next. -/
def cutAtLength? (most a b : Nat) : Option (Nat × Nat) :=
  if a ≤ most ∧ most < b then some (most, most + 1) else none

/-- The first place where a range of code points has to be cut so that each part is a product of
byte ranges: around the surrogates, where the number of bytes changes, and at the blocks of
characters that share their leading bytes. -/
def cut? (a b : Nat) : Option (Nat × Nat) :=
  if a < 0xE000 ∧ 0xD7FF < b then some (0xD7FF, 0xE000)
  else
    (cutAtLength? 0x7F a b).or <| (cutAtLength? 0x7FF a b).or <| (cutAtLength? 0xFFFF a b).or <|
      if b < 0x80 then none
      else
        (cutAtBlock? 0x40 a b).or <| (cutAtBlock? 0x1000 a b).or <| cutAtBlock? 0x40000 a b

/-- Adds the sequences of byte ranges for a range of code points, in ascending order. -/
def byteSequences (a b : Nat) (found : Array (List ByteRange)) : Array (List ByteRange) :=
  if b < a then found
  else
    match cut? a b with
    | some (k, l) =>
      if k < b ∧ a < l then byteSequences l b (byteSequences a k found) else found
    | none => found.push ((utf8Bytes a).zipWith ByteRange.mk (utf8Bytes b))
termination_by b + 1 - a

end RowFilter.Text
