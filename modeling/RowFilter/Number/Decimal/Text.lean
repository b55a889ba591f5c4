import RowFilter.Number.Decimal

/-!
Decimal numerals: how they are read, and the text of a decimal. The text is positional unless
more than five zeros would follow the point or more than fifteen would be implied at the end.
-/

namespace RowFilter.Decimal

/-! ## Reading -/

/-- Reads a digit sequence in which underscores may follow the first digit. -/
def readDigits? (s : List Char) : Option Nat :=
  match s with
  | [] | '_' :: _ => none
  | _ =>
    let ds := s.filter (· ≠ '_')
    if ds.all Char.isDigit then some (Double.natOfDigits ds) else none

/-- A numeral without its point, and how many characters follow the point. -/
def splitPoint (s : List Char) : List Char × Nat :=
  let whole := s.takeWhile (· ≠ '.')
  match s.dropWhile (· ≠ '.') with
  | [] => (s, 0)
  | _ :: fraction => (whole ++ fraction, (fraction.filter (· ≠ '_')).length)

/-- The scale is a signed number of 64 bits. -/
def scaleFits (k : Int) : Bool := -twoTo 63 ≤ k && k < twoTo 63

/-- An exponent is a signed number of 128 bits. -/
def exponentFits (e : Int) : Bool := -twoTo 127 ≤ e && e < twoTo 127

/-- Reads `digits.digits` with an optional sign and an optional exponent; one side of the point
may be empty. The scale is the number of characters after the point less the exponent. A sign may
also stand right after the point, and counts as one of them. -/
def read? (s : List Char) : Option Decimal :=
  let isMark (c : Char) : Bool := c = 'e' || c = 'E'
  let exponent? : Option Int :=
    match s.dropWhile (!isMark ·) with
    | [] => some 0
    | _ :: r => (Double.readExponent? r).filter exponentFits
  let (joined, places) := splitPoint (s.takeWhile (!isMark ·))
  let (negative, digits) := Double.readSign joined
  match exponent?, readDigits? digits with
  | some e, some n =>
    let scale := places - e
    if scaleFits scale then some ⟨Double.signed negative n, scale⟩ else none
  | _, _ => none

/-! ## Writing -/

/-- The most zeros written between the point and the first digit. -/
def leadingZeroLimit : Int := 5

/-- The most zeros written that the scale implies at the end. -/
def trailingZeroLimit : Int := 15

/-- Digits with a point before the last `places` of them, at least one before the point. -/
def withPoint (ds : List Char) (places : Nat) : List Char :=
  let padded := List.replicate (places + 1 - ds.length) '0' ++ ds
  padded.take (padded.length - places) ++ '.' :: padded.drop (padded.length - places)

/-- The leading digit, a point before the others if there are any, and a negative exponent. -/
def scientific (ds : List Char) (scale : Int) : List Char :=
  let exponent := Nat.toDigits 10 (scale - ds.length + 1).toNat
  let mantissa := if ds.length ≤ 1 then ds else ds.take 1 ++ '.' :: ds.drop 1
  mantissa ++ 'E' :: '-' :: exponent

/-- The text of a decimal. Zero is written alike at every scale. -/
def text (d : Decimal) : List Char :=
  if d.units = 0 then ['0']
  else
    let ds := Nat.toDigits 10 d.units.natAbs
    let magnitude :=
      if 0 < d.scale then
        if d.scale - ds.length > leadingZeroLimit then scientific ds d.scale
        else withPoint ds d.scale.toNat
      else if -d.scale > trailingZeroLimit then
        ds ++ 'e' :: '+' :: Nat.toDigits 10 (-d.scale).toNat
      else ds ++ List.replicate (-d.scale).toNat '0'
    if d.units < 0 then '-' :: magnitude else magnitude

/-! ## Reading back -/

/-- What is read from the text of a decimal: the same number, but zeros that the scale implies are
written out and then belong to the units. -/
def readBack (d : Decimal) : Decimal :=
  (read? d.text).getD d

end RowFilter.Decimal
