import RowFilter.Number.Double

/-!
The shortest decimal text of a double: the fewest digits that still lie nearer to it than to any
other double, and of those digits the ones nearest to it.
-/

namespace RowFilter.Double

/-- The positive real `value / unit` and the interval `low / unit … high / unit` of the reals that
round to it, its ends included if `closed`. -/
structure Rounded where
  value : Nat
  low : Nat
  high : Nat
  unit : Nat
  closed : Bool

namespace Rounded

/-- The reals nearest to `m · 2 ^ q`. Below a power of two the doubles lie twice as close. -/
def ofParts (m : Nat) (q : Int) : Rounded :=
  let scale := twoTo q.toNat
  { value := 4 * m * scale
    low := (if m = twoTo 52 ∧ -1074 < q then 4 * m - 1 else 4 * m - 2) * scale
    high := (4 * m + 2) * scale
    unit := 4 * twoTo (-q).toNat
    closed := m % 2 = 0 }

/-- The decimal `d · 10 ^ e` rounds to the double. -/
def holds (r : Rounded) (d : Nat) (e : Int) : Bool :=
  let x := d * tenTo e.toNat * r.unit
  let ten := tenTo (-e).toNat
  if r.closed then r.low * ten ≤ x && x ≤ r.high * ten
  else r.low * ten < x && x < r.high * ten

/-- The multiple of `10 ^ e` that rounds to the double and is nearest to it, if one does; of two
equally near ones the greater. -/
def onGrid? (r : Rounded) (e : Int) : Option Nat :=
  let ten := tenTo (-e).toNat
  let step := tenTo e.toNat * r.unit
  let d := r.value * ten / step
  match r.holds d e, r.holds (d + 1) e with
  | true, true => some (if 2 * (r.value * ten - d * step) < step then d else d + 1)
  | true, false => some d
  | false, true => some (d + 1)
  | false, false => none

/-- Tries the grids `10 ^ e, 10 ^ (e - 1), …`, the first hit having the fewest digits. -/
def search (r : Rounded) (e : Int) : Nat → Nat × Int
  | 0 => (0, 0)
  | grids + 1 =>
    match r.onGrid? e with
    | some d => if d = 0 then r.search (e - 1) grids else (d, e)
    | none => r.search (e - 1) grids

end Rounded

/-- The shortest decimal `d · 10 ^ e` that reads back as `m · 2 ^ q`. The search starts above the
leading digit, which the position of the leading bit bounds. -/
def shortest (m : Nat) (q : Int) : Nat × Int :=
  (Rounded.ofParts m q).search ((m.log2 + q + 1) * 30103 / 100000 + 2) 24

/-- A decimal written with all its places, and no point after a whole number. -/
def positional (d : Nat) (e : Int) : List Char :=
  let ds := Nat.toDigits 10 d
  if 0 ≤ e then ds ++ List.replicate e.toNat '0'
  else
    let places := (-e).toNat
    let padded := List.replicate (places + 1 - ds.length) '0' ++ ds
    let point := padded.length - places
    let fraction := ((padded.drop point).reverse.dropWhile (· == '0')).reverse
    padded.take point ++ if fraction.isEmpty then [] else '.' :: fraction

/-- The text of a double: never with an exponent. -/
def text (x : Float) : List Char :=
  match parts x with
  | .nan => "NaN".toList
  | .infinite negative => (if negative then "-inf" else "inf").toList
  | .finite negative m q =>
    let magnitude :=
      if m = 0 then ['0'] else positional (shortest m q).1 (shortest m q).2
    if negative then '-' :: magnitude else magnitude

end RowFilter.Double
