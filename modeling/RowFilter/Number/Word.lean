import RowFilter.Number.Power

/-!
The fixed-width integers of the language: four types, each a range of whole numbers. A number
enters a type either by being checked against the range or by being reduced modulo the width.
-/

namespace RowFilter

inductive IntType where
  | int32
  | int64
  | uint32
  | uint64
deriving DecidableEq, Repr

namespace IntType

/-- Width in bits. -/
def bits : IntType → Nat
  | int32 | uint32 => 32
  | int64 | uint64 => 64

def isSigned : IntType → Bool
  | int32 | int64 => true
  | uint32 | uint64 => false

/-- How many numbers the type has: two to the width. -/
def modulus (t : IntType) : Nat := twoTo t.bits

/-- The least number of the type. -/
def least (t : IntType) : Int :=
  if t.isSigned then -(t.modulus / 2) else 0

/-- The greatest number of the type. -/
def greatest (t : IntType) : Int :=
  if t.isSigned then t.modulus / 2 - 1 else t.modulus - 1

/-- The number lies in the range of the type. -/
def Fits (t : IntType) (n : Int) : Prop :=
  t.least ≤ n ∧ n ≤ t.greatest

instance (t : IntType) (n : Int) : Decidable (t.Fits n) :=
  inferInstanceAs (Decidable (_ ∧ _))

/-- The number of the type that is congruent to `n` modulo two to the width. -/
def reduce (t : IntType) (n : Int) : Int :=
  if t.isSigned then n.bmod t.modulus else n % t.modulus

theorem modulus_int32 : modulus int32 = 4294967296 := by decide

theorem modulus_int64 : modulus int64 = 18446744073709551616 := by decide

theorem modulus_uint32 : modulus uint32 = 4294967296 := by decide

theorem modulus_uint64 : modulus uint64 = 18446744073709551616 := by decide

theorem fits_reduce (t : IntType) (n : Int) : t.Fits (t.reduce n) := by
  cases t <;> simp only [Fits, reduce, least, greatest, isSigned, modulus_int32, modulus_int64,
    modulus_uint32, modulus_uint64, Int.bmod, if_true, Bool.false_eq_true, if_false] <;>
    (repeat' split) <;> omega

theorem reduce_of_fits {t : IntType} {n : Int} (h : t.Fits n) : t.reduce n = n := by
  cases t <;> simp only [Fits, reduce, least, greatest, isSigned, modulus_int32, modulus_int64,
    modulus_uint32, modulus_uint64, Int.bmod, if_true, Bool.false_eq_true, if_false] at h ⊢ <;>
    (repeat' split) <;> omega

theorem fits_zero (t : IntType) : t.Fits 0 := by
  cases t <;> decide

end IntType

/-- A number of the type `t`. -/
structure Word (t : IntType) where
  toInt : Int
  fits : t.Fits toInt
deriving DecidableEq

namespace Word

variable {t : IntType}

/-- The number as a word, if it lies in the range. -/
def ofInt? (t : IntType) (n : Int) : Option (Word t) :=
  if h : t.Fits n then some ⟨n, h⟩ else none

/-- The number reduced to the range. -/
def wrap (t : IntType) (n : Int) : Word t :=
  ⟨t.reduce n, t.fits_reduce n⟩

instance : OfNat (Word t) n := ⟨wrap t n⟩

instance : Inhabited (Word t) := ⟨wrap t 0⟩

theorem ofInt?_eq_some_iff {n : Int} {w : Word t} : ofInt? t n = some w ↔ w.toInt = n := by
  obtain ⟨m, hm⟩ := w
  simp only [ofInt?]
  split
  · simp [eq_comm]
  · rename_i h
    simp only [reduceCtorEq, false_iff]
    exact fun e => h (e ▸ hm)

theorem ofInt?_isSome_iff {n : Int} : (ofInt? t n).isSome ↔ t.Fits n := by
  simp only [ofInt?]
  split <;> simp_all

@[simp] theorem toInt_wrap (n : Int) : (wrap t n).toInt = t.reduce n := rfl

end Word

end RowFilter
