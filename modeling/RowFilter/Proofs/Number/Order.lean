import Mathlib.Algebra.Order.Field.Power
import Mathlib.Algebra.Order.Field.Rat
import Mathlib.Data.Rat.Cast.Order
import Mathlib.Order.Compare
import Mathlib.Order.WithBot
import Mathlib.Tactic.FieldSimp
import Mathlib.Tactic.Linarith
import Mathlib.Tactic.Positivity
import RowFilter.Number.Decimal

/-!
Decimals as rational numbers. The order of two decimals, found out by their signs, the places of
their leading digits and their units, is that of the numbers they stand for.
-/

namespace RowFilter

/-- The order of two whole numbers is the order of what they stand for. -/
theorem compares_of_int {α : Type} [LT α] {m n : ℤ} {x y : α} (hlt : m < n → x < y)
    (heq : m = n → x = y) (hgt : n < m → y < x) : (Ord.compare m n).Compares x y := by
  cases h : Ord.compare m n with
  | lt => exact hlt (Int.compare_eq_lt.mp h)
  | eq => exact heq (Int.compare_eq_eq.mp h)
  | gt => exact hgt (Int.compare_eq_gt.mp h)

theorem compares_int (m n : ℤ) : (Ord.compare m n).Compares m n := compares_of_int id id id

theorem compares_nat (m n : ℕ) : (Ord.compare m n).Compares m n := by
  cases h : Ord.compare m n with
  | lt => exact Nat.compare_eq_lt.mp h
  | eq => exact Nat.compare_eq_eq.mp h
  | gt => exact Nat.compare_eq_gt.mp h

namespace Decimal

/-- The number that a decimal stands for. -/
def value (d : Decimal) : ℚ := d.units * (10 : ℚ) ^ (-d.scale)

theorem value_pos_iff (d : Decimal) : 0 < d.value ↔ 0 < d.units := by
  have hscale : (0 : ℚ) < 10 ^ (-d.scale) := by positivity
  rw [value, mul_pos_iff_of_pos_right hscale, Int.cast_pos]

theorem value_neg_iff (d : Decimal) : d.value < 0 ↔ d.units < 0 := by
  have hscale : (0 : ℚ) < 10 ^ (-d.scale) := by positivity
  constructor
  · intro h
    exact_mod_cast neg_of_mul_neg_left h hscale.le
  · intro h
    exact mul_neg_of_neg_of_pos (Int.cast_lt_zero.mpr h) hscale

theorem value_eq_zero {d : Decimal} (h : d.units = 0) : d.value = 0 := by
  rw [value, h, Int.cast_zero, zero_mul]

/-- A number of a lesser sign is less. -/
theorem value_lt_of_sign_lt {a b : Decimal} (h : a.units.sign < b.units.sign) :
    a.value < b.value := by
  rcases lt_trichotomy a.units 0 with ha | ha | ha
  · rcases lt_or_ge b.units 0 with hb | hb
    · rw [Int.sign_eq_neg_one_of_neg ha, Int.sign_eq_neg_one_of_neg hb] at h
      exact absurd h (lt_irrefl _)
    · have hneg : a.value < 0 := a.value_neg_iff.mpr ha
      have hnonneg : 0 ≤ b.value :=
        not_lt.mp (fun hlt => absurd (b.value_neg_iff.mp hlt) (by omega))
      exact lt_of_lt_of_le hneg hnonneg
  · rw [ha, Int.sign_zero, Int.sign_pos_iff] at h
    rw [value_eq_zero ha]
    exact b.value_pos_iff.mpr h
  · rw [Int.sign_eq_one_of_pos ha] at h
    rcases Int.sign_trichotomy b.units with hb | hb | hb <;> omega

/-- Numbers of different signs, or zero and any number, are ordered by their signs. -/
theorem compares_sign {a b : Decimal} (h : a.units = 0 ∨ a.units.sign ≠ b.units.sign) :
    (Ord.compare a.units.sign b.units.sign).Compares a.value b.value := by
  refine compares_of_int value_lt_of_sign_lt (fun hsign => ?_) value_lt_of_sign_lt
  have ha : a.units = 0 := h.resolve_right (fun hne => hne hsign)
  have hb : b.units = 0 := by
    rw [ha, Int.sign_zero] at hsign
    exact Int.sign_eq_zero_iff_zero.mp hsign.symm
  rw [value_eq_zero ha, value_eq_zero hb]

/-! ## Places -/

theorem abs_value (d : Decimal) : |d.value| = d.units.natAbs * (10 : ℚ) ^ (-d.scale) := by
  have hscale : (0 : ℚ) < 10 ^ (-d.scale) := by positivity
  rw [value, abs_mul, abs_of_pos hscale, Nat.cast_natAbs, Int.cast_abs]

/-- A number is less than ten to the power of its place. -/
theorem abs_value_lt (d : Decimal) : |d.value| < (10 : ℚ) ^ d.place := by
  have hscale : (0 : ℚ) < 10 ^ (-d.scale) := by positivity
  have hdigits : d.units.natAbs < 10 ^ digitCount d.units.natAbs :=
    (Nat.length_toDigits_le_iff (by decide) Nat.length_toDigits_pos).mp le_rfl
  rw [abs_value, place, sub_eq_add_neg, zpow_add₀ (by norm_num), zpow_natCast]
  apply mul_lt_mul_of_pos_right _ hscale
  exact_mod_cast hdigits

/-- A number other than zero has no fewer than its digits. -/
theorem tenTo_le_of_ne_zero {n : ℕ} (h : n ≠ 0) : 10 ^ (digitCount n - 1) ≤ n := by
  by_contra hlt
  rcases Nat.eq_zero_or_pos (digitCount n - 1) with hone | hpos
  · rw [hone] at hlt
    omega
  · have hlength := (Nat.length_toDigits_le_iff (by decide) hpos).mpr (not_le.mp hlt)
    rw [digitCount] at hpos hlength
    omega

/-- A number other than zero is no less than ten to the power of the place before. -/
theorem le_abs_value {d : Decimal} (h : d.units ≠ 0) : (10 : ℚ) ^ (d.place - 1) ≤ |d.value| := by
  have hscale : (0 : ℚ) < 10 ^ (-d.scale) := by positivity
  have hdigits := tenTo_le_of_ne_zero (Int.natAbs_ne_zero.mpr h)
  have hcount : (d.place - 1 : ℤ) = (digitCount d.units.natAbs - 1 : ℕ) + -d.scale := by
    have hpos : 0 < digitCount d.units.natAbs := Nat.length_toDigits_pos
    rw [place]
    omega
  rw [abs_value, hcount, zpow_add₀ (by norm_num), zpow_natCast]
  apply mul_le_mul_of_nonneg_right _ hscale.le
  exact_mod_cast hdigits

/-- Of two numbers the one with its leading digit further to the right is smaller in magnitude. -/
theorem abs_value_lt_abs_value {a b : Decimal} (hb : b.units ≠ 0) (h : a.place < b.place) :
    |a.value| < |b.value| :=
  calc |a.value| < (10 : ℚ) ^ a.place := a.abs_value_lt
    _ ≤ (10 : ℚ) ^ (b.place - 1) := zpow_le_zpow_right₀ (by norm_num) (by omega)
    _ ≤ |b.value| := le_abs_value hb

/-- Numbers of one sign are ordered by the places of their leading digits, the negative ones in
reverse. -/
theorem value_lt_of_place_lt {a b : Decimal} (ha : a.units ≠ 0)
    (hsign : a.units.sign = b.units.sign)
    (h : a.units.sign * a.place < a.units.sign * b.place) : a.value < b.value := by
  rcases lt_or_gt_of_ne ha with hneg | hpos
  · have hneg' : b.units < 0 := by
      rw [← Int.sign_eq_neg_one_iff_neg, ← hsign, Int.sign_eq_neg_one_iff_neg]
      exact hneg
    rw [Int.sign_eq_neg_one_of_neg hneg] at h
    -- The magnitudes are in the opposite order.
    have hless := abs_value_lt_abs_value ha (show b.place < a.place by omega)
    rw [abs_of_neg (a.value_neg_iff.mpr hneg), abs_of_neg (b.value_neg_iff.mpr hneg')] at hless
    exact neg_lt_neg_iff.mp hless
  · have hpos' : 0 < b.units := by
      rw [← Int.sign_eq_one_iff_pos, ← hsign, Int.sign_eq_one_iff_pos]
      exact hpos
    rw [Int.sign_eq_one_of_pos hpos] at h
    have hless := abs_value_lt_abs_value hpos'.ne' (show a.place < b.place by omega)
    rwa [abs_of_pos (a.value_pos_iff.mpr hpos), abs_of_pos (b.value_pos_iff.mpr hpos')] at hless

theorem compares_place {a b : Decimal} (ha : a.units ≠ 0) (hsign : a.units.sign = b.units.sign)
    (hplace : a.place ≠ b.place) :
    (Ord.compare (a.units.sign * a.place) (a.units.sign * b.place)).Compares a.value b.value := by
  have hsign_ne : a.units.sign ≠ 0 := fun h => ha (Int.sign_eq_zero_iff_zero.mp h)
  have hb : b.units ≠ 0 := fun h => hsign_ne (by rw [hsign, h, Int.sign_zero])
  refine compares_of_int (value_lt_of_place_lt ha hsign) (fun heq => ?_) (fun hlt => ?_)
  · exact absurd (Int.eq_of_mul_eq_mul_left hsign_ne heq) hplace
  · rw [hsign] at hlt
    exact value_lt_of_place_lt hb hsign.symm hlt

/-! ## Units -/

theorem tenTo_eq_zpow {e : ℤ} (h : 0 ≤ e) : (tenTo e : ℚ) = (10 : ℚ) ^ e := by
  obtain ⟨n, rfl⟩ := Int.eq_ofNat_of_zero_le h
  rw [tenTo, Int.toNat_natCast, zpow_natCast]
  exact_mod_cast rfl

/-- At a scale no smaller than its own a number has its value as a whole number of units. -/
theorem value_eq_unitsAt {d : Decimal} {scale : ℤ} (h : d.scale ≤ scale) :
    d.value = d.unitsAt scale * (10 : ℚ) ^ (-scale) := by
  rw [unitsAt, Int.cast_mul, tenTo_eq_zpow (by omega), value, mul_assoc,
    ← zpow_add₀ (by norm_num)]
  congr 2
  omega

theorem compares_unitsAt {a b : Decimal} {scale : ℤ} (ha : a.scale ≤ scale)
    (hb : b.scale ≤ scale) :
    (Ord.compare (a.unitsAt scale) (b.unitsAt scale)).Compares a.value b.value := by
  have hscale : (0 : ℚ) < 10 ^ (-scale) := by positivity
  rw [value_eq_unitsAt ha, value_eq_unitsAt hb]
  refine compares_of_int (fun hlt => ?_) (fun heq => ?_) (fun hlt => ?_)
  · exact mul_lt_mul_of_pos_right (Int.cast_lt.mpr hlt) hscale
  · rw [heq]
  · exact mul_lt_mul_of_pos_right (Int.cast_lt.mpr hlt) hscale

/-- The order of decimals is that of the numbers they stand for. -/
theorem compares_compare (a b : Decimal) : (a.compare b).Compares a.value b.value := by
  rw [compare]
  dsimp only
  split
  · next h =>
    rw [Bool.or_eq_true, isZero, decide_eq_true_iff, decide_eq_true_iff] at h
    exact compares_sign h
  · next h =>
    rw [Bool.or_eq_true, isZero, decide_eq_true_iff, decide_eq_true_iff, not_or, not_not] at h
    split
    · next hplace => exact compares_place h.1 h.2 hplace
    · exact compares_unitsAt (le_max_left _ _) (le_max_right _ _)

end Decimal

namespace Double

/-! ## Magnitudes of doubles -/

/-- The bits of an infinity without its sign. -/
def infinity : ℤ := 2047 * 2 ^ 52

/-- The number that bits without a sign stand for, if they are not those of an infinity or more. -/
def magnitude (m : ℕ) : ℚ :=
  if m / 2 ^ 52 = 0 then (m % 2 ^ 52 : ℕ) * (2 : ℚ) ^ (-1074 : ℤ)
  else (m % 2 ^ 52 + 2 ^ 52 : ℕ) * (2 : ℚ) ^ (((m / 2 ^ 52 : ℕ) : ℤ) - 1075)

/-- The next bits stand for more: at the end of a binade the significand starts over and the
exponent goes up. -/
theorem magnitude_lt_succ (m : ℕ) : magnitude m < magnitude (m + 1) := by
  rw [magnitude, magnitude]
  -- The fraction is all ones, and the carry goes into the exponent.
  by_cases hcarry : m % 2 ^ 52 + 1 = 2 ^ 52
  · have hexponent : (m + 1) / 2 ^ 52 = m / 2 ^ 52 + 1 := by omega
    have hfraction : (m + 1) % 2 ^ 52 = 0 := by omega
    rw [hexponent, hfraction, if_neg (Nat.succ_ne_zero _)]
    split
    -- From the subnormal numbers to the normal ones the exponent of two stays the same.
    · next hsubnormal =>
      have hpow : (0 : ℚ) < 2 ^ (-1074 : ℤ) := by positivity
      rw [hsubnormal]
      exact mul_lt_mul_of_pos_right (Nat.cast_lt.mpr (by omega)) hpow
    · have hpow : (0 : ℚ) < 2 ^ (((m / 2 ^ 52 : ℕ) : ℤ) - 1075) := by positivity
      have hdouble : (2 : ℚ) ^ (((m / 2 ^ 52 + 1 : ℕ) : ℤ) - 1075) =
          2 * 2 ^ (((m / 2 ^ 52 : ℕ) : ℤ) - 1075) := by
        rw [← zpow_one_add₀ two_ne_zero]
        congr 1
        omega
      rw [hdouble, ← mul_assoc]
      apply mul_lt_mul_of_pos_right _ hpow
      exact_mod_cast (by omega : m % 2 ^ 52 + 2 ^ 52 < (0 + 2 ^ 52) * 2)
  · have hexponent : (m + 1) / 2 ^ 52 = m / 2 ^ 52 := by omega
    have hfraction : (m + 1) % 2 ^ 52 = m % 2 ^ 52 + 1 := by omega
    rw [hexponent, hfraction]
    split
    · have hpow : (0 : ℚ) < 2 ^ (-1074 : ℤ) := by positivity
      exact mul_lt_mul_of_pos_right (Nat.cast_lt.mpr (Nat.lt_succ_self _)) hpow
    · have hpow : (0 : ℚ) < 2 ^ (((m / 2 ^ 52 : ℕ) : ℤ) - 1075) := by positivity
      exact mul_lt_mul_of_pos_right (Nat.cast_lt.mpr (by omega)) hpow

theorem strictMono_magnitude : StrictMono magnitude := strictMono_nat_of_lt_succ magnitude_lt_succ

theorem magnitude_zero : magnitude 0 = 0 := by
  rw [magnitude, if_pos (by decide)]
  exact zero_mul _

theorem magnitude_nonneg (m : ℕ) : 0 ≤ magnitude m := by
  rw [← magnitude_zero]
  exact strictMono_magnitude.monotone (Nat.zero_le m)

/-- The number at a place among the finite doubles, zero being at place zero. -/
def finiteAt (r : ℤ) : ℚ :=
  if r < 0 then -magnitude r.natAbs else magnitude r.natAbs

theorem finiteAt_lt {r s : ℤ} (h : r < s) : finiteAt r < finiteAt s := by
  rw [finiteAt, finiteAt]
  split
  · next hr =>
    have hpos : 0 < magnitude r.natAbs := by
      rw [← magnitude_zero]
      exact strictMono_magnitude (by omega)
    -- Whatever is not negative is more than `r`, zero included.
    split
    · exact neg_lt_neg (strictMono_magnitude (by omega))
    · exact lt_of_lt_of_le (neg_lt_zero.mpr hpos) (magnitude_nonneg _)
  · rw [if_neg (by omega)]
    exact strictMono_magnitude (by omega)

theorem finiteAt_signed (negative : Bool) (m : ℕ) :
    finiteAt (signed negative m) = if negative then -magnitude m else magnitude m := by
  cases negative with
  | false => exact if_neg (by show ¬ ((m : ℤ) < 0); omega)
  | true =>
    -- The negative zero stands for zero.
    rcases Nat.eq_zero_or_pos m with rfl | hm
    · show finiteAt 0 = -magnitude 0
      rw [finiteAt, if_neg (lt_irrefl 0), Int.natAbs_zero, magnitude_zero, neg_zero]
    · show finiteAt (-(m : ℤ)) = -magnitude m
      rw [finiteAt, if_pos (by omega), Int.natAbs_neg, Int.natAbs_natCast]

/-! ## Doubles -/

/-- The number that a double stands for, infinities being the outermost ones. A NaN stands for
none. -/
def number? (x : Float) : Option (WithBot (WithTop ℚ)) :=
  match parts x with
  | .nan => none
  | .infinite negative => some (if negative then ⊥ else ⊤)
  | .finite negative m q => some (((signed negative m : ℤ) * (2 : ℚ) ^ q : ℚ) : WithTop ℚ)

theorem number?_of_isNaN {x : Float} (h : isNaN x = true) : number? x = none := by
  rw [number?, eq_of_beq h]

/-- The number at a place among the doubles. -/
def numberAt (r : ℤ) : WithBot (WithTop ℚ) :=
  if r = infinity then ⊤ else if r = -infinity then ⊥ else (finiteAt r : WithTop ℚ)

theorem numberAt_lt {r s : ℤ} (hr : -infinity ≤ r) (hs : s ≤ infinity) (h : r < s) :
    numberAt r < numberAt s := by
  have hr' : r ≠ infinity := by omega
  have hs' : s ≠ -infinity := by omega
  rw [numberAt, numberAt, if_neg hr', if_neg hs']
  by_cases hbot : r = -infinity
  · rw [if_pos hbot]
    split
    · exact bot_lt_top
    · exact WithBot.bot_lt_coe _
  · rw [if_neg hbot]
    split
    · exact WithBot.coe_lt_coe.mpr (WithTop.coe_lt_top _)
    · exact WithBot.coe_lt_coe.mpr (WithTop.coe_lt_coe.mpr (finiteAt_lt h))

/-- The bits of a double without its sign. -/
def unsignedBits (x : Float) : ℕ := x.toBits.toNat % 2 ^ 63

def isNegative (x : Float) : Bool := 2 ^ 63 ≤ x.toBits.toNat

theorem rank_eq (x : Float) : rank x = signed (isNegative x) (unsignedBits x) := rfl

theorem parts_eq (x : Float) : parts x =
    if unsignedBits x / 2 ^ 52 = 2047 then
      if unsignedBits x % 2 ^ 52 = 0 then .infinite (isNegative x) else .nan
    else if unsignedBits x / 2 ^ 52 = 0 then
      .finite (isNegative x) (unsignedBits x % 2 ^ 52) (-1074)
    else .finite (isNegative x) (unsignedBits x % 2 ^ 52 + 2 ^ 52)
      (((unsignedBits x / 2 ^ 52 : ℕ) : ℤ) - 1075) := by
  have hexponent : x.toBits.toNat / twoTo 52 % twoTo 11 = unsignedBits x / 2 ^ 52 := by
    show x.toBits.toNat / 2 ^ 52 % 2 ^ 11 = x.toBits.toNat % 2 ^ 63 / 2 ^ 52
    omega
  have hfraction : x.toBits.toNat % twoTo 52 = unsignedBits x % 2 ^ 52 := by
    show x.toBits.toNat % 2 ^ 52 = x.toBits.toNat % 2 ^ 63 % 2 ^ 52
    omega
  rw [parts, hexponent, hfraction]
  rfl

/-- A double that is no NaN is no more than an infinity in magnitude. -/
theorem unsignedBits_le {x : Float} (h : isNaN x = false) : unsignedBits x ≤ 2047 * 2 ^ 52 := by
  have hbits : unsignedBits x < 2 ^ 63 := Nat.mod_lt _ (by decide)
  by_contra hlt
  -- Beyond the infinities the exponent is the special one, and the fraction is not zero.
  have hspecial : unsignedBits x / 2 ^ 52 = 2047 := by omega
  rw [isNaN, parts_eq, if_pos hspecial, if_neg (by omega)] at h
  exact absurd h (by decide)

theorem rank_bounds {x : Float} (h : isNaN x = false) :
    -infinity ≤ rank x ∧ rank x ≤ infinity := by
  have hbits := unsignedBits_le h
  rw [rank_eq, infinity]
  cases isNegative x with
  | false =>
    show _ ≤ (unsignedBits x : ℤ) ∧ (unsignedBits x : ℤ) ≤ _
    omega
  | true =>
    show _ ≤ -(unsignedBits x : ℤ) ∧ -(unsignedBits x : ℤ) ≤ _
    omega

theorem cast_signed_mul (negative : Bool) (n : ℕ) (p : ℚ) :
    ((signed negative n : ℤ) : ℚ) * p = if negative then -(n * p) else n * p := by
  cases negative with
  | false => exact congrArg (· * p) (Int.cast_natCast n)
  | true =>
    show ((-(n : ℤ) : ℤ) : ℚ) * p = -(n * p)
    rw [Int.cast_neg, Int.cast_natCast, neg_mul]

/-- The number of a finite double. -/
theorem numberAt_signed {m : ℕ} (negative : Bool) (h : m < 2047 * 2 ^ 52) :
    numberAt (signed negative m) =
      ((if negative then -magnitude m else magnitude m : ℚ) : WithTop ℚ) := by
  have hne : signed negative m ≠ infinity ∧ signed negative m ≠ -infinity := by
    rw [infinity]
    cases negative with
    | false =>
      show (m : ℤ) ≠ _ ∧ (m : ℤ) ≠ _
      omega
    | true =>
      show -(m : ℤ) ≠ _ ∧ -(m : ℤ) ≠ _
      omega
  rw [numberAt, if_neg hne.1, if_neg hne.2, finiteAt_signed]

/-- A double that is no NaN stands for the number at its place. -/
theorem number?_of_not_isNaN {x : Float} (h : isNaN x = false) :
    number? x = some (numberAt (rank x)) := by
  have hbits := unsignedBits_le h
  rw [rank_eq, number?, parts_eq]
  by_cases hspecial : unsignedBits x / 2 ^ 52 = 2047
  · have hinfinite : unsignedBits x = 2047 * 2 ^ 52 := by omega
    rw [if_pos hspecial, if_pos (by omega), hinfinite]
    cases isNegative x with
    | false => exact congrArg some (if_pos rfl).symm
    | true => exact congrArg some ((if_neg (by decide)).trans (if_pos rfl)).symm
  · rw [if_neg hspecial, numberAt_signed _ (by omega), magnitude]
    by_cases hsubnormal : unsignedBits x / 2 ^ 52 = 0
    · rw [if_pos hsubnormal, if_pos hsubnormal, ← cast_signed_mul]
    · rw [if_neg hsubnormal, if_neg hsubnormal, ← cast_signed_mul]

/-- The order of doubles that are no NaN is that of the numbers they stand for. -/
theorem compares_rank {x y : Float} (hx : isNaN x = false) (hy : isNaN y = false) :
    (Ord.compare (rank x) (rank y)).Compares (numberAt (rank x)) (numberAt (rank y)) := by
  refine compares_of_int (fun hlt => ?_) (fun heq => ?_) (fun hlt => ?_)
  · exact numberAt_lt (rank_bounds hx).1 (rank_bounds hy).2 hlt
  · rw [heq]
  · exact numberAt_lt (rank_bounds hy).1 (rank_bounds hx).2 hlt

end Double

end RowFilter
