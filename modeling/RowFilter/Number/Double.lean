import RowFilter.Number.Power

/-!
Double precision numbers as exact numbers: every finite double is a whole number times a power
of two. On this view rest the whole part and the exact remainder of a division, and the reading
of numerals.
-/

namespace RowFilter.Double

/-- What a double stands for; the finite one is `± significand · 2 ^ exponent`. -/
inductive Parts where
  | nan
  | infinite (negative : Bool)
  | finite (negative : Bool) (significand : Nat) (exponent : Int)
deriving DecidableEq, Repr

/-- The meaning of the bits of the binary interchange format. -/
def parts (x : Float) : Parts :=
  let bits := x.toBits.toNat
  let negative : Bool := twoTo 63 ≤ bits
  let e : Nat := bits / twoTo 52 % twoTo 11
  let f : Nat := bits % twoTo 52
  if e = 2047 then
    if f = 0 then .infinite negative else .nan
  else if e = 0 then .finite negative f (-1074)
  else .finite negative (f + twoTo 52) ((e : Int) - 1075)

/-- The double of value `± significand · 2 ^ exponent`, which has to be one exactly. -/
def ofParts (negative : Bool) (significand : Nat) (exponent : Int) : Float :=
  let scaled (e : Int) : Nat :=
    if 0 ≤ e then significand * twoTo e.toNat else significand / twoTo (-e).toNat
  let top := significand.log2 + exponent
  let magnitude : Nat :=
    if significand = 0 then 0
    else if top < -1022 then scaled (exponent + 1074)
    else (top + 1023).toNat * twoTo 52 + (scaled (52 - significand.log2) - twoTo 52)
  Float.ofBits (UInt64.ofNat (magnitude + if negative then twoTo 63 else 0))

def signed (negative : Bool) (n : Nat) : Int :=
  if negative then -n else n

/-- The value without its fraction, for a finite double. -/
def truncate? (x : Float) : Option Int :=
  match parts x with
  | .finite negative m q =>
    some (signed negative (if 0 ≤ q then m * twoTo q.toNat else m / twoTo (-q).toNat))
  | _ => none

def isNaN (x : Float) : Bool :=
  parts x == .nan

/-- The exact remainder of the division truncated toward zero: it has the sign of the dividend,
a zero remainder included. Dividing by zero, or an infinity by anything, gives a NaN. -/
def remainder (x y : Float) : Float :=
  match parts x, parts y with
  | .finite negative m q, .finite _ n r =>
    if n = 0 then 0.0 / 0.0
    else
      let e := min q r
      ofParts negative (m * twoTo (q - e).toNat % (n * twoTo (r - e).toNat)) e
  | .finite _ _ _, .infinite _ => x
  | _, _ => 0.0 / 0.0

/-- Numbers in the order of the doubles that are no NaN. Without their sign bit the bits of a double
grow with its magnitude, and both zeros stand for zero. -/
def rank (x : Float) : Int :=
  let bits := x.toBits.toNat
  signed (twoTo 63 ≤ bits) (bits % twoTo 63)

/-- The order of two doubles, none if one of them is a NaN. -/
def compare? (x y : Float) : Option Ordering :=
  if isNaN x || isNaN y then none else some (compare (rank x) (rank y))

/-! ## Numerals -/

/-- The value of a digit sequence in base ten. -/
def natOfDigits (ds : List Char) : Nat :=
  ds.foldl (fun n d => 10 * n + (d.toNat - '0'.toNat)) 0

/-- A numeral `digits · 10 ^ exponent`. -/
structure Numeral where
  digits : List Char
  exponent : Int
deriving DecidableEq, Repr

/-- Optional sign, then the rest. -/
def readSign : List Char → Bool × List Char
  | '+' :: s => (false, s)
  | '-' :: s => (true, s)
  | s => (false, s)

/-- A sequence of digits that is not empty, with an optional sign before it. -/
def readExponent? (s : List Char) : Option Int :=
  let (negative, ds) := readSign s
  if ds.isEmpty || !ds.all Char.isDigit then none else some (signed negative (natOfDigits ds))

/-- Reads digits with an optional point among them, at least one digit in all, and an optional
exponent. -/
def readNumeral? (s : List Char) : Option Numeral :=
  let whole := s.takeWhile Char.isDigit
  let afterWhole := s.dropWhile Char.isDigit
  let (fraction, rest) : List Char × List Char :=
    match afterWhole with
    | '.' :: r => (r.takeWhile Char.isDigit, r.dropWhile Char.isDigit)
    | r => ([], r)
  if whole.isEmpty && fraction.isEmpty then none
  else
    let exponent? : Option Int :=
      match rest with
      | [] => some 0
      | c :: r => if c = 'e' || c = 'E' then readExponent? r else none
    exponent?.map fun e => ⟨whole ++ fraction, e - fraction.length⟩

/-- The nearest double to `n · 10 ^ e`, ties going to the even significand. What lies past the
largest double is infinite; what lies below half the smallest is zero. -/
def ofScaled (n : Nat) (e : Int) : Float :=
  let places : Int := (Nat.toDigits 10 n).length + e
  if n = 0 || places < -330 then 0.0
  else if places > 310 then 1.0 / 0.0
  else if e < 0 then Float.ofScientific n true (-e).toNat
  else Float.ofScientific n false e.toNat

/-- Reads a double: an optional sign, then a numeral or the name of infinity or of NaN in any
case. -/
def read? (s : List Char) : Option Float :=
  let (negative, body) := readSign s
  let magnitude? : Option Float :=
    match String.ofList (body.map Char.toLower) with
    | "inf" | "infinity" => some (1.0 / 0.0)
    | "nan" => some (0.0 / 0.0)
    | _ => (readNumeral? body).map fun n => ofScaled (natOfDigits n.digits) n.exponent
  magnitude?.map fun x => if negative then -x else x

end RowFilter.Double
