import Mathlib.Data.Int.ModEq
import Mathlib.Tactic.Positivity
import RowFilter.Number.Word.Operations

/-!
Numbers reduced to a type. A number keeps its residue modulo two to the width, and the truncated
division of numbers of a type stays in the type but for the least number divided by minus one.
-/

namespace RowFilter

namespace IntType

theorem modulus_eq (t : IntType) : (t.modulus : ℤ) = 2 ^ t.bits := by
  show ((2 ^ t.bits : ℕ) : ℤ) = 2 ^ t.bits
  exact_mod_cast rfl

theorem reduce_modEq (t : IntType) (n : ℤ) : t.reduce n ≡ n [ZMOD 2 ^ t.bits] := by
  rw [← modulus_eq, Int.ModEq, reduce]
  split
  · exact Int.bmod_emod
  · exact Int.emod_emod _ _

theorem greatest_eq (t : IntType) : t.greatest = t.least + 2 ^ t.bits - 1 := by
  cases t <;> decide

/-- A number of the type is determined by its residue. -/
theorem eq_of_modEq {t : IntType} {m n : ℤ} (hm : t.Fits m) (hn : t.Fits n)
    (h : m ≡ n [ZMOD 2 ^ t.bits]) : m = n := by
  have hrange := t.greatest_eq
  have hpos : (0 : ℤ) < 2 ^ t.bits := by positivity
  obtain ⟨hlow, hhigh⟩ := hm
  obtain ⟨hlow', hhigh'⟩ := hn
  -- the distance is a multiple of the modulus that is smaller than the modulus
  have hdvd : (2 : ℤ) ^ t.bits ∣ n - m := h.dvd
  have hzero : n - m = 0 := by
    apply Int.eq_zero_of_abs_lt_dvd hdvd
    rw [abs_lt]
    omega
  omega

theorem least_nonpos (t : IntType) : t.least ≤ 0 := by
  cases t <;> decide

theorem greatest_pos (t : IntType) : 0 < t.greatest := by
  cases t <;> decide

/-- A type has no negative numbers, or one more than it has positive ones. -/
theorem least_eq (t : IntType) : t.least = 0 ∨ t.least = -t.greatest - 1 := by
  cases t <;> decide

/-- What lies between zero and a number of the type is of the type. -/
theorem fits_of_between {t : IntType} {m r : ℤ} (hm : t.Fits m)
    (h : 0 ≤ r ∧ r ≤ m ∨ m ≤ r ∧ r ≤ 0) : t.Fits r := by
  have hleast := t.least_nonpos
  have hgreatest := t.greatest_pos
  obtain ⟨hlow, hhigh⟩ := hm
  constructor <;> omega

end IntType

/-! ## Truncated division -/

theorem tmod_between (m n : ℤ) : 0 ≤ m.tmod n ∧ m.tmod n ≤ m ∨ m ≤ m.tmod n ∧ m.tmod n ≤ 0 := by
  have hle : (m.tmod n).natAbs ≤ m.natAbs := by
    rw [Int.natAbs_tmod]
    exact Nat.mod_le _ _
  by_cases hm : 0 ≤ m
  · have hnonneg := Int.tmod_nonneg n hm
    omega
  · have hnonneg := Int.tmod_nonneg n (show 0 ≤ -m by omega)
    rw [Int.neg_tmod] at hnonneg
    omega

theorem natAbs_tmod_lt {m n : ℤ} (hn : n ≠ 0) : (m.tmod n).natAbs < n.natAbs := by
  rw [Int.natAbs_tmod]
  exact Nat.mod_lt _ (Int.natAbs_pos.mpr hn)

/-- The truncated remainder has the sign of the dividend, unless it is zero. -/
theorem tmod_eq_zero_or_sign (m n : ℤ) : m.tmod n = 0 ∨ (m.tmod n).sign = m.sign := by
  by_cases hdvd : n ∣ m
  · exact .inl (Int.tmod_eq_zero_of_dvd hdvd)
  · right
    rw [Int.sign_tmod, if_neg hdvd]

theorem natAbs_tdiv_lt {m n : ℤ} (hm : m ≠ 0) (hn : 1 < n.natAbs) :
    (m.tdiv n).natAbs < m.natAbs := by
  rw [Int.natAbs_tdiv]
  exact Nat.div_lt_self (Int.natAbs_pos.mpr hm) hn

namespace IntType

/-- The truncated quotient of two numbers of a type is of the type, unless the least number is
divided by minus one. -/
theorem fits_tdiv {t : IntType} {m n : ℤ} (hm : t.Fits m) (hn : t.Fits n)
    (hwrap : ¬ (m = t.least ∧ n = -1)) : t.Fits (m.tdiv n) := by
  have hle := Int.natAbs_tdiv_le_natAbs m n
  have hgreatest := t.greatest_pos
  obtain ⟨hlow, hhigh⟩ := hm
  rcases t.least_eq with hunsigned | hsigned
  · have hnonneg := Int.tdiv_nonneg (show 0 ≤ m by omega) (hunsigned ▸ hn.1)
    constructor <;> omega
  · by_cases hleast : m = t.least
    · -- a divisor of one keeps it, and any other but minus one brings it closer to zero
      by_cases hone : n = 1
      · rw [hone, Int.tdiv_one]
        exact ⟨hlow, hhigh⟩
      · by_cases hzero : n = 0
        · rw [hzero, Int.tdiv_zero]
          exact t.fits_zero
        · have hlt := natAbs_tdiv_lt (show m ≠ 0 by omega) (show 1 < n.natAbs by omega)
          constructor <;> omega
    · constructor <;> omega

theorem fits_tmod {t : IntType} {m : ℤ} (hm : t.Fits m) (n : ℤ) : t.Fits (m.tmod n) :=
  fits_of_between hm (tmod_between m n)

end IntType

namespace Word

/-- What `m / n` and `m % n` have to be in a type: the truncated quotient, reduced only where the
least number is divided by minus one, and what it leaves of the dividend. -/
structure IsDivision {t : IntType} (m n : ℤ) (q r : Word t) : Prop where
  quotient_modEq : q.toInt ≡ m.tdiv n [ZMOD 2 ^ t.bits]
  quotient_eq : ¬ (m = t.least ∧ n = -1) → q.toInt = m.tdiv n
  identity : m ≡ q.toInt * n + r.toInt [ZMOD 2 ^ t.bits]
  remainder_lt : |r.toInt| < |n|
  remainder_sign : r.toInt = 0 ∨ r.toInt.sign = m.sign

theorem isDivision {t : IntType} {m n : ℤ} (hm : t.Fits m) (hn : t.Fits n) (hzero : n ≠ 0) :
    IsDivision m n (quotient t m n) (remainder t m n) := by
  have hquotient : (quotient t m n).toInt ≡ m.tdiv n [ZMOD 2 ^ t.bits] := t.reduce_modEq _
  have hremainder : (remainder t m n).toInt = m.tmod n :=
    IntType.reduce_of_fits (IntType.fits_tmod hm n)
  constructor
  · exact hquotient
  · intro hwrap
    exact IntType.reduce_of_fits (IntType.fits_tdiv hm hn hwrap)
  · rw [hremainder]
    calc m = m.tdiv n * n + m.tmod n := (Int.tdiv_mul_add_tmod m n).symm
      _ ≡ (quotient t m n).toInt * n + m.tmod n [ZMOD 2 ^ t.bits] :=
        (hquotient.symm.mul_right n).add_right _
  · rw [hremainder, Int.abs_eq_natAbs, Int.abs_eq_natAbs]
    exact_mod_cast natAbs_tmod_lt hzero
  · rw [hremainder]
    exact tmod_eq_zero_or_sign m n

end Word

end RowFilter
