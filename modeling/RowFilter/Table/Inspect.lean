import RowFilter.Table.Basic
import RowFilter.Text.Quoted

/-!
A text that shows all there is to a row: its table, its position, and its cells with their types.
-/

namespace RowFilter

namespace Double

/-- A decimal `d · 10 ^ e` with one digit before the point and an exponent. -/
def scientific (d : Nat) (e : Int) : List Char :=
  let ds := Nat.toDigits 10 d
  let fraction := if ds.length = 1 then [] else '.' :: ds.drop 1
  let exponent := e + ds.length - 1
  let sign := if exponent < 0 then ['-'] else []
  ds.take 1 ++ fraction ++ 'e' :: sign ++ Nat.toDigits 10 exponent.natAbs

/-- Shown with an exponent: below a ten-thousandth, and from ten to the sixteenth on. -/
def isExtreme (d : Nat) (e : Int) : Bool :=
  let exponent := e + (Nat.toDigits 10 d).length - 1
  d ≠ 0 && (exponent < -4 || 16 ≤ exponent)

/-- A double with at least one place after the point, or with an exponent. -/
def inspect (x : Float) : List Char :=
  match parts x with
  | .finite negative m q =>
    let (d, e) := if m = 0 then (0, 0) else shortest m q
    let magnitude :=
      if isExtreme d e then scientific d e
      else
        let digits := positional d e
        if digits.contains '.' then digits else digits ++ ['.', '0']
    if negative then '-' :: magnitude else magnitude
  | _ => text x

end Double

namespace Decimal

/-- The digits of a number to the base of two to the 64th, the least significant first. -/
def limbs (n : Nat) : List Nat :=
  if _h : n = 0 then [] else n % twoTo 64 :: limbs (n / twoTo 64)
termination_by n
decreasing_by exact Nat.div_lt_self (Nat.pos_of_ne_zero _h) (by decide)

def signName (n : Int) : String :=
  if n = 0 then "NoSign" else if n < 0 then "Minus" else "Plus"

def inspect (d : Decimal) : String :=
  let digits := ", ".intercalate ((limbs d.units.natAbs).map toString)
  s!"BigDecimal(sign={signName d.units}, scale={d.scale}, digits=[{digits}])"

end Decimal

def Value.inspect (v : Value) : String :=
  let content : String :=
    match v with
    | .undefined => ""
    | .decimal d => d.inspect
    | .double x => String.ofList (Double.inspect x)
    | .string s => String.ofList (Text.quoted s.toList)
    | .dateTime t => String.ofList (t.textWith 'T')
    | v => v.text
  if v.isUndefined then "Undefined" else s!"{v.valueType.name}({content})"

/-- A row of a table. -/
def Row.inspect (r : Row) (table : String) : String :=
  let cells := ", ".intercalate (r.cells.map Value.inspect)
  let name := String.ofList (Text.quoted table.toList)
  s!"DataRow \x7b table: {name}, index: {r.index}, values: [{cells}] \x7d"

end RowFilter
