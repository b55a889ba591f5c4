import RowFilter.Guid
import RowFilter.Number.Double

/-!
Reading whole numbers within the range of a width in bits: signed ones with an optional sign, and
natural ones in decimal or, after `0x`, in hexadecimal.
-/

namespace RowFilter.Integer

/-- Reads a signed number that fits `bits` bits. -/
def readSigned? (bits : Nat) (s : List Char) : Option Int :=
  (Double.readExponent? s).filter fun n => -twoTo (bits - 1) ≤ n && n < twoTo (bits - 1)

/-- Passes over a plus sign. -/
def dropPlus : List Char → List Char
  | '+' :: s => s
  | s => s

/-- The value of a hexadecimal digit sequence. -/
def natOfHex (ds : List Char) : Nat :=
  ds.foldl (fun n d => 16 * n + (Guid.hexValue? d).getD 0) 0

/-- The digits after the mark of a hexadecimal number. -/
def afterHexMark? : List Char → Option (List Char)
  | '0' :: 'x' :: s | '0' :: 'X' :: s => some s
  | _ => none

/-- Reads a natural number in decimal or hexadecimal, with an optional plus sign before its
digits. -/
def readNatural? (s : List Char) : Option Nat :=
  match afterHexMark? s with
  | some r =>
    let ds := dropPlus r
    if ds.isEmpty || !ds.all Guid.isHexDigit then none else some (natOfHex ds)
  | none =>
    let ds := dropPlus s
    if ds.isEmpty || !ds.all Char.isDigit then none else some (Double.natOfDigits ds)

/-- Reads a natural number that fits `bits` bits. -/
def readUnsigned? (bits : Nat) (s : List Char) : Option Nat :=
  (readNatural? s).filter (· < twoTo bits)

end RowFilter.Integer
