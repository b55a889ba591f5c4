import RowFilter.Number.Double

/-!
Decimal numbers of any size: a whole number of units `10 ^ (-scale)`. The scale is part of the
number and shows in its text, so every operation says which scale its result has; equality and
order are those of the numbers themselves.
-/

namespace RowFilter

/-- The number `units · 10 ^ (-scale)`. -/
structure Decimal where
  units : Int
  scale : Int
deriving DecidableEq, Repr

namespace Decimal

def ofInt (n : Int) : Decimal := ⟨n, 0⟩

/-- Power of ten, one for negative exponents. -/
def tenTo (e : Int) : Int := RowFilter.tenTo e.toNat

/-- Number of decimal digits. -/
def digitCount (n : Nat) : Nat := (Nat.toDigits 10 n).length

def isZero (d : Decimal) : Bool := d.units = 0

/-- The most places of a one that is known as such: its units have to fit in 128 bits. -/
def onePlaces : Int := 38

/-- A one, written with no more places than that and not with implied trailing zeros. -/
def isOne (d : Decimal) : Bool :=
  0 ≤ d.scale && d.scale ≤ onePlaces && d.units = tenTo d.scale

/-- The place of the leading digit: the number lies between `10 ^ (place - 1)` and `10 ^ place`. -/
def place (d : Decimal) : Int := digitCount d.units.natAbs - d.scale

/-- The units of the same number at a scale that is at least its own. -/
def unitsAt (d : Decimal) (scale : Int) : Int := d.units * tenTo (scale - d.scale)

/-! ## Arithmetic -/

def neg (d : Decimal) : Decimal := ⟨-d.units, d.scale⟩

def abs (d : Decimal) : Decimal := ⟨d.units.natAbs, d.scale⟩

/-- The sum, at the larger of the two scales. -/
def add (a b : Decimal) : Decimal :=
  let scale := max a.scale b.scale
  ⟨a.unitsAt scale + b.unitsAt scale, scale⟩

/-- The difference, at the larger scale; taking away zero, or taking from zero, keeps the scale
of the other number. -/
def sub (a b : Decimal) : Decimal :=
  if b.isZero then a
  else if a.isZero then b.neg
  else
    let scale := max a.scale b.scale
    ⟨a.unitsAt scale - b.unitsAt scale, scale⟩

/-- The product, at the sum of the scales; a factor of one leaves the other as it is. -/
def mul (a b : Decimal) : Decimal :=
  if a.isOne then b
  else if b.isOne then a
  else ⟨a.units * b.units, a.scale + b.scale⟩

/-- A quotient never has more digits than this after its leading one. -/
def quotientDigits : Nat := 100

/-- Multiplies a positive `n` by ten until it is not below `d`, counting the steps. The steps are
bounded by the digits of `d`. -/
def scaleUp (n d : Nat) : Nat → Nat → Nat × Nat
  | 0, steps => (n, steps)
  | bound + 1, steps => if n < d then scaleUp (n * 10) d bound (steps + 1) else (n, steps)

/-- Long division: appends up to `count` digits to the quotient while a remainder is left. Gives
the quotient, the last remainder and the number of digits appended. -/
def longDivision (d : Nat) : (count : Nat) → (quotient remainder appended : Nat) → Nat × Nat × Nat
  | 0, q, r, k => (q, r, k)
  | count + 1, q, r, k =>
    if r = 0 then (q, r, k)
    else longDivision d count (q * 10 + r * 10 / d) (r * 10 % d) (k + 1)

/-- The quotient of positive numbers to a hundred digits, a half rounded up, and the places it
has beyond the difference of the scales. -/
def quotient (n d : Nat) : Nat × Nat :=
  let (n, steps) := scaleUp n d (digitCount d) 0
  let (q, r, k) := longDivision d (quotientDigits - digitCount (n / d)) (n / d) (n % d) 0
  (if d ≤ 2 * r then q + 1 else q, steps + k)

/-- The quotient by a divisor other than zero. It is exact if a hundred digits are enough. -/
def div (a b : Decimal) : Decimal :=
  if a.isZero || b.isOne then a
  else
    let scale := a.scale - b.scale
    if a.units = b.units then ⟨1, scale⟩
    else
      let (q, places) := quotient a.units.natAbs b.units.natAbs
      ⟨Double.signed (decide (a.units < 0) != decide (b.units < 0)) q, scale + places⟩

/-- The remainder of the truncated division, at the larger scale; it has the dividend's sign. -/
def rem (a b : Decimal) : Decimal :=
  let scale := max a.scale b.scale
  ⟨(a.unitsAt scale).tmod (b.unitsAt scale), scale⟩

/-! ## Order -/

/-- The order of the numbers, whatever their scales: by their signs, then by the places of their
leading digits, and only then by their units at one scale. -/
def compare (a b : Decimal) : Ordering :=
  let sign := a.units.sign
  if a.isZero || sign ≠ b.units.sign then Ord.compare sign b.units.sign
  else if a.place ≠ b.place then Ord.compare (sign * a.place) (sign * b.place)
  else
    let scale := max a.scale b.scale
    Ord.compare (a.unitsAt scale) (b.unitsAt scale)

/-! ## Whole numbers -/

/-- Ways to bring a number to a whole one. -/
inductive Rounding where
  | up
  | down
  | halfAway
deriving DecidableEq, Repr

/-- Below a tenth in magnitude. -/
def isSmall (d : Decimal) : Bool := d.place < 0

/-- The number without its fraction. -/
def truncate (d : Decimal) : Int :=
  if d.isSmall then 0 else d.units * tenTo (-d.scale) |>.tdiv (tenTo d.scale)

/-- The whole number next to `d`: above it, below it, or the nearest with halves going away
from zero. Below a tenth the sign alone decides. -/
def round (mode : Rounding) (d : Decimal) : Decimal :=
  let (n, one) : Int × Int :=
    if d.isSmall then (d.units.sign, 10) else (d.units * tenTo (-d.scale), tenTo d.scale)
  match mode with
  | .up => ofInt (-((-n).fdiv one))
  | .down => ofInt (n.fdiv one)
  | .halfAway => ofInt (Double.signed (n < 0) ((2 * n.natAbs + one.toNat) / (2 * one.toNat)))

/-! ## Doubles -/

/-- The exact value of a finite double, at the least scale at which it is whole. Subnormal numbers
have the scale of the smallest one. -/
def ofDouble? (x : Float) : Option Decimal :=
  match Double.parts x with
  | .finite negative m q => some (exact negative m q)
  | _ => none
where
  /-- `m · 2 ^ q`, after halving `m` while it is even and `q` is negative, unless `m` is too small
  for a normal number. -/
  exact (negative : Bool) (m : Nat) (q : Int) : Decimal :=
    if m = 0 then ⟨0, 0⟩
    else if 0 ≤ q then ⟨Double.signed negative (m * twoTo q.toNat), 0⟩
    else
      let shift := if m < twoTo 52 then 0 else halvings m (-q).toNat
      let k := (-q).toNat - shift
      ⟨Double.signed negative (m / twoTo shift * fiveTo k), k⟩
  /-- How often `m` can be halved, up to a bound. -/
  halvings (m : Nat) : Nat → Nat
    | 0 => 0
    | bound + 1 => if m % 2 = 0 then halvings (m / 2) bound + 1 else 0

/-- The nearest double. -/
def toDouble (d : Decimal) : Float :=
  let magnitude := Double.ofScaled d.units.natAbs (-d.scale)
  if d.units < 0 then -magnitude else magnitude

end Decimal

end RowFilter
