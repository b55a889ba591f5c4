import Mathlib.Data.Rat.Floor
import RowFilter.Proofs.Number.Order

/-!
Arithmetic of decimals as arithmetic of the numbers they stand for. Sums, differences and products
are exact; the rules on scales decide how a result is written, not which number it is. Cutting off
the fraction of a decimal is cutting off that of the number.
-/

namespace RowFilter

namespace Decimal

@[simp] theorem value_ofInt (n : ℤ) : (ofInt n).value = n := by
  rw [value, ofInt, neg_zero, zpow_zero, mul_one]

@[simp] theorem value_neg (d : Decimal) : d.neg.value = -d.value := by
  show ((-d.units : ℤ) : ℚ) * 10 ^ (-d.scale) = -(d.units * 10 ^ (-d.scale))
  rw [Int.cast_neg, neg_mul]

theorem value_of_isZero {d : Decimal} (h : d.isZero = true) : d.value = 0 :=
  value_eq_zero (of_decide_eq_true h)

/-- A factor that multiplication passes over stands for one. -/
theorem value_of_isOne {d : Decimal} (h : d.isOne = true) : d.value = 1 := by
  simp only [isOne, Bool.and_eq_true, decide_eq_true_eq] at h
  obtain ⟨⟨hscale, -⟩, hunits⟩ := h
  rw [value, hunits, tenTo_eq_zpow hscale, ← zpow_add₀ (by norm_num), add_neg_cancel, zpow_zero]

theorem value_add (a b : Decimal) : (a.add b).value = a.value + b.value := by
  -- at the larger scale both are whole numbers of units
  rw [value_eq_unitsAt (le_max_left a.scale b.scale),
    value_eq_unitsAt (le_max_right a.scale b.scale)]
  show ((a.unitsAt _ + b.unitsAt _ : ℤ) : ℚ) * 10 ^ (-max a.scale b.scale) = _
  rw [Int.cast_add, add_mul]

theorem value_sub (a b : Decimal) : (a.sub b).value = a.value - b.value := by
  rw [sub]
  by_cases hb : b.isZero = true
  · rw [if_pos hb, value_of_isZero hb, sub_zero]
  · rw [if_neg hb]
    by_cases ha : a.isZero = true
    · rw [if_pos ha, value_neg, value_of_isZero ha, zero_sub]
    · rw [if_neg ha, value_eq_unitsAt (le_max_left a.scale b.scale),
        value_eq_unitsAt (le_max_right a.scale b.scale)]
      show ((a.unitsAt _ - b.unitsAt _ : ℤ) : ℚ) * 10 ^ (-max a.scale b.scale) = _
      rw [Int.cast_sub, sub_mul]

theorem value_mul (a b : Decimal) : (a.mul b).value = a.value * b.value := by
  rw [mul]
  by_cases ha : a.isOne = true
  · rw [if_pos ha, value_of_isOne ha, one_mul]
  · rw [if_neg ha]
    by_cases hb : b.isOne = true
    · rw [if_pos hb, value_of_isOne hb, mul_one]
    · rw [if_neg hb]
      -- the scales add up as the powers of ten multiply
      show ((a.units * b.units : ℤ) : ℚ) * 10 ^ (-(a.scale + b.scale)) = _
      rw [Int.cast_mul, neg_add, zpow_add₀ (by norm_num), mul_mul_mul_comm]
      rfl

end Decimal

/-! ## Whole parts -/

/-- The number without its fraction. -/
def wholePart (x : ℚ) : ℤ := if 0 ≤ x then ⌊x⌋ else ⌈x⌉

theorem wholePart_intCast (n : ℤ) : wholePart n = n := by
  rw [wholePart, Int.floor_intCast, Int.ceil_intCast, ite_self]

/-- A number below one in magnitude is nothing but a fraction. -/
theorem wholePart_of_abs_lt_one {x : ℚ} (h : |x| < 1) : wholePart x = 0 := by
  rw [abs_lt] at h
  rw [wholePart]
  split
  · next hx => exact Int.floor_eq_zero_iff.mpr ⟨hx, h.2⟩
  · next hx => exact Int.ceil_eq_zero_iff.mpr ⟨h.1, (not_le.mp hx).le⟩

/-- The whole part of a quotient is the quotient of the division that rounds toward zero. -/
theorem wholePart_div (m : ℤ) {k : ℕ} (hk : 0 < k) : wholePart ((m : ℚ) / k) = m.tdiv k := by
  have hk' : (0 : ℚ) < k := Nat.cast_pos.mpr hk
  have hsign : 0 ≤ (m : ℚ) / k ↔ 0 ≤ m := by
    rw [le_div_iff₀ hk', zero_mul, Int.cast_nonneg_iff]
  rw [wholePart]
  by_cases hm : 0 ≤ m
  · rw [if_pos (hsign.mpr hm), Rat.floor_intCast_div_natCast, Int.tdiv_eq_ediv_of_nonneg hm]
  · have hopposite : (m : ℚ) / k = -(((-m : ℤ) : ℚ) / k) := by rw [Int.cast_neg, neg_div, neg_neg]
    rw [if_neg (fun h => hm (hsign.mp h)), hopposite, Int.ceil_neg, Rat.floor_intCast_div_natCast,
      ← Int.tdiv_eq_ediv_of_nonneg (by omega), Int.neg_tdiv, neg_neg]

namespace Decimal

/-- A number of units over one, both whole. -/
theorem value_eq_div (d : Decimal) :
    d.value = ((d.units * tenTo (-d.scale) : ℤ) : ℚ) / (RowFilter.tenTo d.scale.toNat : ℕ) := by
  have hone : ((RowFilter.tenTo d.scale.toNat : ℕ) : ℚ) = ((tenTo d.scale : ℤ) : ℚ) := rfl
  rcases le_total 0 d.scale with h | h
  · have hnone : tenTo (-d.scale) = 1 := by
      rw [tenTo, Int.toNat_of_nonpos (by omega)]
      rfl
    rw [hnone, mul_one, hone, tenTo_eq_zpow h, value, zpow_neg, div_eq_mul_inv]
  · have hnone : tenTo d.scale = 1 := by
      rw [tenTo, Int.toNat_of_nonpos h]
      rfl
    rw [hone, hnone, Int.cast_one, div_one, Int.cast_mul, tenTo_eq_zpow (by omega), value]

theorem truncate_eq (d : Decimal) : d.truncate = wholePart d.value := by
  rw [truncate]
  split
  · next hsmall =>
    have hplace : d.place < 0 := of_decide_eq_true hsmall
    have hlt : |d.value| < 1 :=
      lt_of_lt_of_le d.abs_value_lt (zpow_le_one_of_nonpos₀ (by norm_num) hplace.le)
    rw [wholePart_of_abs_lt_one hlt]
  · rw [value_eq_div, wholePart_div _ (tenTo_pos _)]
    rfl

end Decimal

end RowFilter
