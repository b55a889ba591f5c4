import RowFilter.Number.Word

/-!
Integer operations whose results are reduced to a type. The operands are whole numbers; where their
bits matter, those are the bits of two's complement in the width of the type.
-/

namespace RowFilter.Word

variable (t : IntType)

def add (m n : Int) : Word t := wrap t (m + n)

def sub (m n : Int) : Word t := wrap t (m - n)

def mul (m n : Int) : Word t := wrap t (m * n)

/-- The quotient without its fraction. -/
def quotient (m n : Int) : Word t := wrap t (m.tdiv n)

/-- What the quotient leaves; it has the sign of the dividend. -/
def remainder (m n : Int) : Word t := wrap t (m.tmod n)

/-! ## Bits -/

/-- The number whose bits are those of `m` and of `n`, combined place by place. -/
def bitwise (f : BitVec t.bits → BitVec t.bits → BitVec t.bits) (m n : Int) : Word t :=
  wrap t (f (BitVec.ofInt t.bits m) (BitVec.ofInt t.bits n)).toInt

def and (m n : Int) : Word t := bitwise t (· &&& ·) m n

def or (m n : Int) : Word t := bitwise t (· ||| ·) m n

def xor (m n : Int) : Word t := bitwise t (· ^^^ ·) m n

/-- Every bit inverted. -/
def complement (n : Int) : Word t := wrap t (-n - 1)

/-- Moves the bits up; the amount counts modulo the width. -/
def shiftLeft (n : Int) (amount : Nat) : Word t := wrap t (n * twoTo (amount % t.bits))

/-- Moves the bits down, the sign coming in from above; the amount counts modulo the width. -/
def shiftRight (n : Int) (amount : Nat) : Word t := wrap t (n / twoTo (amount % t.bits))

end RowFilter.Word
