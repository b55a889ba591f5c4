import Mathlib.Algebra.Group.Nat.Defs
import RowFilter.Number.Integer

/-!
Numbers written in decimal digits and read back, and what signed numbers are read from.
-/

namespace RowFilter

namespace Double

theorem natOfDigits_toDigits (n : Nat) : natOfDigits (Nat.toDigits 10 n) = n := by
  rw [natOfDigits, ← Nat.ofDigitChars_eq_foldl]
  exact Nat.ofDigitChars_ten_toDigits

theorem natOfDigits_zeros (k : Nat) (ds : List Char) :
    natOfDigits (List.replicate k '0' ++ ds) = natOfDigits ds := by
  rw [natOfDigits, natOfDigits, ← Nat.ofDigitChars_eq_foldl, ← Nat.ofDigitChars_eq_foldl,
    Nat.ofDigitChars_append, Nat.ofDigitChars_replicate_zero, Nat.mul_zero]

end Double

/-- Digits are found among the first characters of all, so that what is to hold of each of them can
be tried out. -/
theorem forall_isDigit {P : Char → Prop}
    (hP : ∀ n < 58, (Char.ofNat n).isDigit = true → P (Char.ofNat n)) {c : Char}
    (h : c.isDigit = true) : P c := by
  have hbound : c.toNat < 58 := by
    simp only [Char.isDigit, Bool.and_eq_true, decide_eq_true_eq, UInt32.le_iff_toNat_le] at h
    exact Nat.lt_succ_of_le h.2
  rw [← Char.ofNat_toNat c] at h ⊢
  exact hP c.toNat hbound h

theorem isBlank_of_isDigit {c : Char} (h : c.isDigit = true) : Text.isBlank c = false :=
  forall_isDigit (P := fun c => Text.isBlank c = false) (by decide) h

theorem takeWhile_isDigit {ds : List Char} (h : ∀ c ∈ ds, c.isDigit = true) :
    ds.takeWhile Char.isDigit = ds := by
  have htake : (ds ++ []).takeWhile Char.isDigit = ds ++ [].takeWhile Char.isDigit :=
    List.takeWhile_append_of_pos h
  simpa using htake

theorem isDigit_toDigits {n : Nat} : ∀ c ∈ Nat.toDigits 10 n, c.isDigit = true :=
  fun _ h => Nat.isDigit_of_mem_toDigits (by decide) (by decide) h

/-- The digits of a number, the first of them set apart. -/
theorem exists_toDigits_eq_cons (n : Nat) :
    ∃ c ds, Nat.toDigits 10 n = c :: ds ∧ c.isDigit = true := by
  obtain ⟨c, ds, h⟩ := List.exists_cons_of_ne_nil (Nat.toDigits_ne_nil (n := n) (b := 10))
  have hc : c ∈ Nat.toDigits 10 n := by
    rw [h]
    exact List.mem_cons_self
  exact ⟨c, ds, h, isDigit_toDigits c hc⟩

namespace Integer

/-- A digit is no mark, so no digits are taken for a hexadecimal number. -/
theorem afterHexMark?_of_digits {ds : List Char} (h : ds.all Char.isDigit = true) :
    afterHexMark? ds = none := by
  unfold afterHexMark?
  split
  · exact absurd h (by simp)
  · exact absurd h (by simp)
  · rfl

theorem dropPlus_of_digits {ds : List Char} (h : ds.all Char.isDigit = true) :
    dropPlus ds = ds := by
  unfold dropPlus
  split
  · exact absurd h (by simp)
  · rfl

/-- Digits, at least one of them. -/
def IsDigits (ds : List Char) : Prop := ds ≠ [] ∧ ∀ c ∈ ds, c.isDigit = true

theorem isDigits_iff {ds : List Char} :
    IsDigits ds ↔ ¬ (ds.isEmpty || !ds.all Char.isDigit) = true := by
  simp [IsDigits]

theorem isDigits_toDigits (n : Nat) : IsDigits (Nat.toDigits 10 n) :=
  ⟨Nat.toDigits_ne_nil, isDigit_toDigits⟩

/-- Digits are read as the number that they denote. -/
theorem readNatural?_of_digits {ds : List Char} (h : IsDigits ds) :
    readNatural? ds = some (Nat.ofDigitChars 10 ds 0) := by
  have hdigits := List.all_eq_true.mpr h.2
  rw [readNatural?, afterHexMark?_of_digits hdigits, Nat.ofDigitChars_eq_foldl]
  simp only [dropPlus_of_digits hdigits]
  exact if_neg (isDigits_iff.mp h)

theorem readNatural?_toDigits (n : Nat) : readNatural? (Nat.toDigits 10 n) = some n := by
  rw [readNatural?_of_digits (isDigits_toDigits n), Nat.ofDigitChars_ten_toDigits]

theorem readUnsigned?_toDigits {bits n : Nat} (h : n < twoTo bits) :
    readUnsigned? bits (Nat.toDigits 10 n) = some n := by
  rw [readUnsigned?, readNatural?_toDigits, Option.filter_some, if_pos (decide_eq_true h)]

/-! ## Numerals with a sign -/

/-- A number is written in digits, perhaps with a sign before them. -/
inductive IsNumeral : List Char → Int → Prop where
  | unsigned {ds : List Char} (h : IsDigits ds) : IsNumeral ds (Nat.ofDigitChars 10 ds 0)
  | plus {ds : List Char} (h : IsDigits ds) : IsNumeral ('+' :: ds) (Nat.ofDigitChars 10 ds 0)
  | minus {ds : List Char} (h : IsDigits ds) : IsNumeral ('-' :: ds) (-Nat.ofDigitChars 10 ds 0)

/-- A digit is no sign. -/
theorem readSign_of_digits {ds : List Char} (h : ∀ c ∈ ds, c.isDigit = true) :
    Double.readSign ds = (false, ds) := by
  unfold Double.readSign
  split
  · exact absurd (h '+' List.mem_cons_self) (by decide)
  · exact absurd (h '-' List.mem_cons_self) (by decide)
  · rfl

theorem readExponent?_of_readSign {s ds : List Char} {negative : Bool}
    (hsign : Double.readSign s = (negative, ds)) (h : IsDigits ds) :
    Double.readExponent? s = some (Double.signed negative (Nat.ofDigitChars 10 ds 0)) := by
  rw [Double.readExponent?, hsign, Nat.ofDigitChars_eq_foldl]
  exact if_neg (isDigits_iff.mp h)

theorem isDigits_of_readExponent? {s : List Char} {n : Int}
    (h : Double.readExponent? s = some n) : IsDigits (Double.readSign s).2 := by
  rw [Double.readExponent?] at h
  refine isDigits_iff.mpr fun hnone => ?_
  cases (if_pos hnone).symm.trans h

/-- Signed numbers are read from their numerals and from nothing else. -/
theorem readExponent?_eq_some_iff {s : List Char} {n : Int} :
    Double.readExponent? s = some n ↔ IsNumeral s n := by
  constructor
  · intro h
    have hdigits := isDigits_of_readExponent? h
    have hvalue := (readExponent?_of_readSign rfl hdigits).symm.trans h
    obtain rfl := Option.some.inj hvalue
    revert hdigits
    rw [Double.readSign.eq_def]
    split
    · exact .plus
    · exact .minus
    · exact .unsigned
  · intro h
    cases h with
    | unsigned h => exact readExponent?_of_readSign (readSign_of_digits h.2) h
    | plus h => exact readExponent?_of_readSign rfl h
    | minus h => exact readExponent?_of_readSign rfl h

theorem IsNumeral.forall_not_blank {s : List Char} {n : Int} (h : IsNumeral s n) :
    ∀ c ∈ s, Text.isBlank c = false := by
  have hdigits {ds : List Char} (hds : IsDigits ds) : ∀ c ∈ ds, Text.isBlank c = false :=
    fun c hc => isBlank_of_isDigit (hds.2 c hc)
  cases h with
  | unsigned h => exact hdigits h
  | plus h => exact List.forall_mem_cons.mpr ⟨by decide, hdigits h⟩
  | minus h => exact List.forall_mem_cons.mpr ⟨by decide, hdigits h⟩

end Integer

end RowFilter
