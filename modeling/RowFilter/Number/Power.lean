/-!
Powers of natural numbers.
-/

namespace RowFilter

/-- Two to the power `n`. -/
def twoTo (n : Nat) : Nat := Nat.pow 2 n

/-- Five to the power `n`. -/
def fiveTo (n : Nat) : Nat := Nat.pow 5 n

/-- Ten to the power `n`. -/
def tenTo (n : Nat) : Nat := Nat.pow 10 n

theorem tenTo_pos (n : Nat) : 0 < tenTo n := Nat.pow_pos (by decide)

end RowFilter
