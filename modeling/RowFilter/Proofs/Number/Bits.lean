import Mathlib.Data.Int.Bitwise
import Mathlib.Data.Rat.Floor
import RowFilter.Proofs.Number.Wrap

/-!
Operations on the bits of numbers. From the place of the sign on, the bits of a number of a type are
alike, so that the bits within the width decide about all of them. Operations on the bits within the
width are therefore operations on two's complement without end.
-/

namespace RowFilter

/-! ## Bits of whole numbers -/

theorem exists_testBit_eq_false (k p : ℕ) : ∃ i, p ≤ i ∧ k.testBit i = false := by
  have hlt : k < 2 ^ max p k :=
    Nat.lt_two_pow_self.trans_le (Nat.pow_le_pow_right two_pos (le_max_right p k))
  exact ⟨max p k, le_max_left p k, Nat.testBit_lt_two_pow hlt⟩

theorem lt_twoPow_iff_testBit {k p : ℕ} : k < 2 ^ p ↔ ∀ i, p ≤ i → k.testBit i = false := by
  constructor
  · intro h i hi
    exact Nat.testBit_lt_two_pow (h.trans_le (Nat.pow_le_pow_right two_pos hi))
  · intro h
    exact Nat.lt_pow_two_of_testBit k h

/-- The bits from a place on are zeros. -/
theorem testBit_eq_false_iff {n : ℤ} {p : ℕ} :
    (∀ i, p ≤ i → n.testBit i = false) ↔ 0 ≤ n ∧ n < (2 ^ p : ℕ) := by
  cases n with
  | ofNat k =>
    have hk : (∀ i, p ≤ i → (Int.ofNat k).testBit i = false) ↔ k < 2 ^ p :=
      lt_twoPow_iff_testBit.symm
    rw [hk, Int.ofNat_eq_natCast]
    omega
  | negSucc k =>
    constructor
    · intro h
      -- a number without end of zeros would be the complement of one without end of ones
      obtain ⟨i, hi, hbit⟩ := exists_testBit_eq_false k p
      have hones : (!k.testBit i) = false := h i hi
      rw [hbit] at hones
      cases hones
    · omega

/-- The bits from a place on are ones. -/
theorem testBit_eq_true_iff {n : ℤ} {p : ℕ} :
    (∀ i, p ≤ i → n.testBit i = true) ↔ -(2 ^ p : ℕ) ≤ n ∧ n < 0 := by
  cases n with
  | ofNat k =>
    constructor
    · intro h
      obtain ⟨i, hi, hbit⟩ := exists_testBit_eq_false k p
      have hones : k.testBit i = true := h i hi
      rw [hbit] at hones
      cases hones
    · rw [Int.ofNat_eq_natCast]
      omega
  | negSucc k =>
    have hk : (∀ i, p ≤ i → (Int.negSucc k).testBit i = true) ↔ k < 2 ^ p := by
      rw [lt_twoPow_iff_testBit]
      apply forall₂_congr
      intro i hi
      show (!k.testBit i) = true ↔ _
      rw [Bool.not_eq_true']
    rw [hk]
    omega

/-! ## Bits of the numbers of a type -/

namespace IntType

/-- The place from which on the bits of a number of the type are alike. -/
def signPlace (t : IntType) : ℕ := if t.isSigned then t.bits - 1 else t.bits

theorem least_eq_signPlace (t : IntType) :
    t.least = if t.isSigned = true then -((2 ^ t.signPlace : ℕ) : ℤ) else 0 := by
  cases t <;> decide

theorem greatest_eq_signPlace (t : IntType) : t.greatest = ((2 ^ t.signPlace : ℕ) : ℤ) - 1 := by
  cases t <;> decide

/-- The numbers of the type are those whose bits are alike from the place of the sign on, and are
ones there only if the type is signed. -/
theorem fits_iff_testBit {t : IntType} {n : ℤ} :
    t.Fits n ↔ ∃ sign : Bool, (sign = true → t.isSigned = true) ∧
      ∀ i, t.signPlace ≤ i → n.testBit i = sign := by
  rw [Bool.exists_bool, testBit_eq_false_iff, testBit_eq_true_iff, Fits, least_eq_signPlace,
    greatest_eq_signPlace]
  have hpos : 0 < 2 ^ t.signPlace := Nat.two_pow_pos _
  cases t.isSigned with
  | true =>
    simp only [if_true, imp_true_iff, true_and]
    omega
  | false =>
    simp only [Bool.false_eq_true, if_false, false_implies, true_implies, true_and, false_and,
      or_false]
    omega

/-- A number whose bits are found place by place from those of two numbers of the type is of the
type as well, if zeros give a zero. -/
theorem fits_of_testBit {t : IntType} {m n r : ℤ} {f : Bool → Bool → Bool} (hm : t.Fits m)
    (hn : t.Fits n) (hzero : f false false = false)
    (hr : ∀ i, r.testBit i = f (m.testBit i) (n.testBit i)) : t.Fits r := by
  obtain ⟨sign, hsigned, hbits⟩ := fits_iff_testBit.mp hm
  obtain ⟨sign', hsigned', hbits'⟩ := fits_iff_testBit.mp hn
  apply fits_iff_testBit.mpr
  have hunsigned : f sign sign' = true → t.isSigned = true := by
    intro h
    cases sign with
    | true => exact hsigned rfl
    | false =>
      cases sign' with
      | true => exact hsigned' rfl
      | false => cases hzero.symm.trans h
  have hsign (i) (hi : t.signPlace ≤ i) : r.testBit i = f sign sign' := by
    rw [hr, hbits i hi, hbits' i hi]
  exact ⟨f sign sign', hunsigned, hsign⟩

end IntType

/-! ## Bits within a width -/

theorem getLsbD_ofInt (w : ℕ) (n : ℤ) (i : ℕ) :
    (BitVec.ofInt w n).getLsbD i = (decide (i < w) && n.testBit i) := by
  cases n with
  | ofNat k => exact BitVec.getLsbD_ofNat ..
  | negSucc k =>
    rw [BitVec.ofInt_negSucc_eq_not_ofNat, BitVec.getLsbD_not, BitVec.getLsbD_ofNat]
    by_cases hi : i < w
    · rw [decide_eq_true hi]
      rfl
    · rw [decide_eq_false hi]
      rfl

/-- Combining the bits within a width is combining all bits, as far as the width goes. -/
theorem ofInt_eq_of_testBit {w : ℕ} {m n r : ℤ} {f : Bool → Bool → Bool}
    {g : BitVec w → BitVec w → BitVec w}
    (hg : ∀ x y i, i < w → (g x y).getLsbD i = f (x.getLsbD i) (y.getLsbD i))
    (hr : ∀ i, r.testBit i = f (m.testBit i) (n.testBit i)) :
    g (BitVec.ofInt w m) (BitVec.ofInt w n) = BitVec.ofInt w r := by
  apply BitVec.eq_of_getLsbD_eq
  intro i hi
  rw [hg _ _ i hi, getLsbD_ofInt, getLsbD_ofInt, getLsbD_ofInt, decide_eq_true hi, hr]
  rfl

/-- A quotient rounded down lies between zero and the dividend. -/
theorem ediv_between (n : ℤ) {d : ℤ} (hd : 0 < d) :
    0 ≤ n / d ∧ n / d ≤ n ∨ n ≤ n / d ∧ n / d ≤ 0 := by
  have hle := Int.natAbs_ediv_le_natAbs n d
  by_cases hn : 0 ≤ n
  · have hnonneg := Int.ediv_nonneg hn hd.le
    omega
  · have hneg := Int.ediv_neg_of_neg_of_pos (not_le.mp hn) hd
    omega

namespace Word

variable {t : IntType} {m n : ℤ}

/-- An operation on the bits within the width gives, for numbers of the type, the number that comes
of combining all of their bits. -/
theorem toInt_bitwise {r : ℤ} {f : Bool → Bool → Bool}
    {g : BitVec t.bits → BitVec t.bits → BitVec t.bits} (hm : t.Fits m) (hn : t.Fits n)
    (hzero : f false false = false)
    (hg : ∀ x y i, i < t.bits → (g x y).getLsbD i = f (x.getLsbD i) (y.getLsbD i))
    (hr : ∀ i, r.testBit i = f (m.testBit i) (n.testBit i)) : (bitwise t g m n).toInt = r := by
  have hfits : t.Fits r := IntType.fits_of_testBit hm hn hzero hr
  have hmod : (BitVec.ofInt t.bits r).toInt ≡ r [ZMOD 2 ^ t.bits] := by
    rw [BitVec.toInt_ofInt, ← IntType.modulus_eq]
    exact Int.bmod_emod
  apply IntType.eq_of_modEq (bitwise t g m n).fits hfits
  rw [bitwise, ofInt_eq_of_testBit hg hr, toInt_wrap]
  exact (t.reduce_modEq _).trans hmod

theorem toInt_and (hm : t.Fits m) (hn : t.Fits n) : (and t m n).toInt = Int.land m n :=
  toInt_bitwise hm hn rfl (fun _ _ _ _ => BitVec.getLsbD_and) (Int.testBit_land m n)

theorem toInt_or (hm : t.Fits m) (hn : t.Fits n) : (or t m n).toInt = Int.lor m n :=
  toInt_bitwise hm hn rfl (fun _ _ _ _ => BitVec.getLsbD_or) (Int.testBit_lor m n)

theorem toInt_xor (hm : t.Fits m) (hn : t.Fits n) : (xor t m n).toInt = Int.xor m n :=
  toInt_bitwise hm hn rfl (fun _ _ _ _ => BitVec.getLsbD_xor) (Int.testBit_lxor m n)

/-! ## Shifts -/

theorem shiftLeft_modEq {k : ℕ} (hk : k < t.bits) (n : ℤ) :
    (shiftLeft t n k).toInt ≡ n * 2 ^ k [ZMOD 2 ^ t.bits] := by
  have htwo : (twoTo (k % t.bits) : ℤ) = 2 ^ k := by
    rw [Nat.mod_eq_of_lt hk]
    show ((2 ^ k : ℕ) : ℤ) = 2 ^ k
    exact_mod_cast rfl
  rw [shiftLeft, toInt_wrap, htwo]
  exact t.reduce_modEq _

/-- The bits of a number of the type, moved down, are those of the quotient rounded down. -/
theorem toInt_shiftRight {k : ℕ} (hk : k < t.bits) (hn : t.Fits n) :
    (shiftRight t n k).toInt = ⌊(n : ℚ) / 2 ^ k⌋ := by
  have htwo : twoTo (k % t.bits) = 2 ^ k := by
    rw [Nat.mod_eq_of_lt hk]
    rfl
  have hfloor : ⌊(n : ℚ) / 2 ^ k⌋ = n / (2 ^ k : ℕ) := by
    rw [← Rat.floor_intCast_div_natCast, Nat.cast_pow]
    rfl
  have hpos : (0 : ℤ) < (2 ^ k : ℕ) := Int.natCast_pos.mpr (Nat.two_pow_pos k)
  rw [shiftRight, toInt_wrap, htwo, hfloor]
  exact IntType.reduce_of_fits (IntType.fits_of_between hn (ediv_between n hpos))

end Word

end RowFilter
