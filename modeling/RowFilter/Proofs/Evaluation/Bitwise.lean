import RowFilter.Evaluation.Operator
import RowFilter.Proofs.Number.Bits
import RowFilter.Proofs.Outcome
import RowFilter.Proofs.Value.Conversion
import RowFilter.Proofs.Value.Integral

/-!
Operators on bits. Whatever the types of two Booleans or integers are, their bits are combined as
those of two's complement without end, unless no integer type holds the numbers of both types.
Shifts multiply and divide in the type of what is shifted.
-/

namespace RowFilter

/-! ## Types of operands -/

namespace ValueType

/-- One type is signed, and the other is UInt64, so that no integer type holds both. -/
def isApart (s t : ValueType) : Bool :=
  (s = int32 ∨ s = int64) ∧ t = uint64 ∨ s = uint64 ∧ (t = int32 ∨ t = int64)

theorem combined?_of_isApart {s t : ValueType} (hs : s.isIntegral = true) (ht : t.isIntegral = true)
    (hapart : s.isApart t = true) : s.combined? t = some .decimal := by
  have hall : ∀ s ∈ integralTypes, ∀ t ∈ integralTypes, s.isApart t = true →
      s.combined? t = some .decimal := by decide
  exact hall s (mem_integralTypes hs) t (mem_integralTypes ht) hapart

/-- Booleans and integers whose types are not apart are combined as integers. -/
theorem exists_combined?_of_not_isApart {s t : ValueType} (hs : s.isIntegral = true)
    (ht : t.isIntegral = true) (hapart : s.isApart t = false) :
    ∃ u, s.combined? t = some (.integer u) ∧ (ValueType.integer u).holds s = true ∧
      (ValueType.integer u).holds t = true := by
  have hall : ∀ s ∈ integralTypes, ∀ t ∈ integralTypes, s.isApart t = false →
      s.combined? t ≠ some .decimal := by decide
  obtain ⟨u, htype, hus, hut, hinteger | hdecimal⟩ := exists_combined? hs ht
  · cases u with
    | integer u => exact ⟨u, htype, hus, hut⟩
    | boolean | decimal | double | string | guid | dateTime | undefined => cases hinteger
  · rw [hdecimal] at htype
    exact absurd htype (hall s (mem_integralTypes hs) t (mem_integralTypes ht) hapart)

end ValueType

namespace IntegralValue

theorem exists_boolean (a : IntegralValue) (h : a.value.valueType = .boolean) :
    ∃ x, a.value = .boolean x ∧ a.number = if x then 1 else 0 := by
  obtain ⟨a, ha⟩ := a
  cases a with
  | boolean x => exact ⟨x, rfl, rfl⟩
  | _ => cases h

/-- The type in which the value is shifted: its own, a Boolean being shifted as an Int32. -/
def shiftedType (a : IntegralValue) : IntType :=
  match a.value.valueType with
  | .integer t => t
  | _ => .int32

theorem fits_shiftedType (a : IntegralValue) : a.shiftedType.Fits a.number := by
  obtain ⟨a, ha⟩ := a
  cases a with
  | boolean x =>
    show IntType.int32.Fits (if x then 1 else 0)
    cases x <;> decide
  | integer t n => exact n.fits
  | decimal | double | undefined | string | guid | dateTime => cases ha

end IntegralValue

namespace Operator

variable {op : Operator} {a b : IntegralValue}

theorem apply_of_isBitwise (hop : op.isBitwise = true) (a b : IntegralValue) :
    op.apply a.value b.value = op.bitwise a.value b.value := by
  rw [op.apply_of_toRat? a.toRat?_eq b.toRat?_eq]
  cases op with
  | shiftLeft | shiftRight | bitwiseAnd | bitwiseOr | bitwiseXor => rfl
  | _ => cases hop

/-! ## Bits -/

theorem bitwise_eq_combineBits (hshift : op.isShift = false)
    (hints : ¬ (a.value.valueType = .boolean ∧ b.value.valueType = .boolean)) :
    op.bitwise a.value b.value = op.combineBits a.value b.value := by
  have hnoshift : ¬ op.isShift = true := Bool.eq_false_iff.mp hshift
  obtain ⟨a, ha⟩ := a
  obtain ⟨b, hb⟩ := b
  cases a with
  | boolean x =>
    cases b with
    | boolean y => exact absurd ⟨rfl, rfl⟩ hints
    | integer u n => exact if_neg hnoshift
    | decimal | double | undefined | string | guid | dateTime => cases hb
  | integer t m =>
    cases b with
    | boolean y => exact if_neg hnoshift
    | integer u n => exact if_neg hnoshift
    | decimal | double | undefined | string | guid | dateTime => cases hb
  | decimal | double | undefined | string | guid | dateTime => cases ha

/-- Numbers of a common integer type have their bits combined in that type. -/
theorem combineBits_integer {t : IntType}
    (htype : a.value.valueType.combined? b.value.valueType = some (.integer t))
    (hta : (ValueType.integer t).holds a.value.valueType = true)
    (htb : (ValueType.integer t).holds b.value.valueType = true) :
    op.combineBits a.value b.value = .ok (op.bitwiseIntegers t a.number b.number) := by
  rw [combineBits, op.commonType_of_combined? htype, ok_bind,
    Value.convert_integer a.number?_eq hta, ok_bind, Value.convert_integer b.number?_eq htb]
  rfl

/-- Decimals have no bits to be combined. -/
theorem combineBits_decimal
    (htype : a.value.valueType.combined? b.value.valueType = some .decimal) :
    op.combineBits a.value b.value =
      .error (.evaluation op.text (.cannotCombine a.value.valueType b.value.valueType)) := by
  obtain ⟨d, hd, -⟩ := Value.convert_decimal a.toRat?_eq
  obtain ⟨e, he, -⟩ := Value.convert_decimal b.toRat?_eq
  rw [combineBits, op.commonType_of_combined? htype, ok_bind, hd, ok_bind, he]
  rfl

theorem apply_booleans {x y z : Bool} (hop : op.isBitwise = true)
    (hz : op.bitwiseBooleans? x y = some z) :
    op.apply (.boolean x) (.boolean y) = .ok (.boolean z) := by
  rw [apply_of_isBitwise hop ⟨.boolean x, rfl⟩ ⟨.boolean y, rfl⟩, bitwise, hz]

/-- What an operator on bits has to give for two Booleans or integers: a failure if their types are
apart, and otherwise the value of the type that they are promoted to whose number `f` finds. -/
structure CombinesBits (op : Operator) (f : ℤ → ℤ → ℤ) (a b : IntegralValue) : Prop where
  apart : a.value.valueType.isApart b.value.valueType = true →
    ∃ e, op.apply a.value b.value = .error e
  together : a.value.valueType.isApart b.value.valueType = false →
    ∃ c : IntegralValue, op.apply a.value b.value = .ok c.value ∧
      a.value.valueType.promote? b.value.valueType = some c.value.valueType ∧
      c.number = f a.number b.number

/-- An operator combines bits as `f` does, if it does so for two Booleans and in every integer
type. -/
theorem combinesBits {f : ℤ → ℤ → ℤ} (hop : op.isBitwise = true) (hshift : op.isShift = false)
    (hbooleans : ∀ x y, ∃ z, op.bitwiseBooleans? x y = some z ∧
      (if z then 1 else 0) = f (if x then 1 else 0) (if y then 1 else 0))
    (hintegers : ∀ t m n, IntType.Fits t m → t.Fits n → ∃ r : Word t,
      op.bitwiseIntegers t m n = .integer t r ∧ r.toInt = f m n)
    (a b : IntegralValue) : CombinesBits op f a b := by
  by_cases hints : a.value.valueType = .boolean ∧ b.value.valueType = .boolean
  · obtain ⟨x, hx, hxnumber⟩ := a.exists_boolean hints.1
    obtain ⟨y, hy, hynumber⟩ := b.exists_boolean hints.2
    obtain ⟨z, hz, hnumber⟩ := hbooleans x y
    constructor
    · rw [hx, hy]
      intro hapart
      cases hapart
    · intro _
      rw [hx, hy, hxnumber, hynumber]
      exact ⟨⟨.boolean z, rfl⟩, apply_booleans hop hz, rfl, hnumber⟩
  · have hpromote : a.value.valueType.combined? b.value.valueType =
        a.value.valueType.promote? b.value.valueType := if_neg hints
    constructor
    · intro hapart
      have htype := ValueType.combined?_of_isApart a.isIntegral b.isIntegral hapart
      rw [apply_of_isBitwise hop, bitwise_eq_combineBits hshift hints, combineBits_decimal htype]
      exact ⟨_, rfl⟩
    · intro hapart
      obtain ⟨t, htype, hta, htb⟩ :=
        ValueType.exists_combined?_of_not_isApart a.isIntegral b.isIntegral hapart
      have hfits : t.Fits a.number := Value.fits_of_holds a.number?_eq hta
      have hfits' : t.Fits b.number := Value.fits_of_holds b.number?_eq htb
      obtain ⟨r, hr, hnumber⟩ := hintegers t a.number b.number hfits hfits'
      refine ⟨⟨.integer t r, rfl⟩, ?_, hpromote ▸ htype, hnumber⟩
      rw [apply_of_isBitwise hop, bitwise_eq_combineBits hshift hints,
        combineBits_integer htype hta htb, hr]

theorem combinesBits_and : ∀ a b, CombinesBits bitwiseAnd Int.land a b := by
  apply combinesBits rfl rfl
  · intro x y
    exact ⟨x && y, rfl, by cases x <;> cases y <;> rfl⟩
  · intro t m n hm hn
    exact ⟨_, rfl, Word.toInt_and hm hn⟩

theorem combinesBits_or : ∀ a b, CombinesBits bitwiseOr Int.lor a b := by
  apply combinesBits rfl rfl
  · intro x y
    exact ⟨x || y, rfl, by cases x <;> cases y <;> rfl⟩
  · intro t m n hm hn
    exact ⟨_, rfl, Word.toInt_or hm hn⟩

theorem combinesBits_xor : ∀ a b, CombinesBits bitwiseXor Int.xor a b := by
  apply combinesBits rfl rfl
  · intro x y
    exact ⟨x ^^ y, rfl, by cases x <;> cases y <;> rfl⟩
  · intro t m n hm hn
    exact ⟨_, rfl, Word.toInt_xor hm hn⟩

/-! ## Shifts -/

theorem bitwise_eq_shift (hshift : op.isShift = true) (a b : IntegralValue) :
    op.bitwise a.value b.value = op.shift a.value b.value := by
  obtain ⟨a, ha⟩ := a
  obtain ⟨b, hb⟩ := b
  cases a with
  | boolean x =>
    cases b with
    | boolean y =>
      cases op with
      | shiftLeft | shiftRight => rfl
      | _ => cases hshift
    | integer u n => exact if_pos hshift
    | decimal | double | undefined | string | guid | dateTime => cases hb
  | integer t m =>
    cases b with
    | boolean y => exact if_pos hshift
    | integer u n => exact if_pos hshift
    | decimal | double | undefined | string | guid | dateTime => cases hb
  | decimal | double | undefined | string | guid | dateTime => cases ha

/-- An amount that is a natural number of 32 bits is one to shift by, whatever its type is. -/
theorem shiftAmount_of_nonneg (hlow : 0 ≤ b.number) (hhigh : b.number < 2 ^ 32) :
    op.shiftAmount b.value = .ok b.number.toNat := by
  have hfits : IntType.int64.Fits b.number := by
    have hleast : IntType.int64.least = -2 ^ 63 := by decide
    have hgreatest : IntType.int64.greatest = 2 ^ 63 - 1 := by decide
    rw [IntType.Fits, hleast, hgreatest]
    omega
  have hconvert := Value.convert_of_toValue? b.number?_eq (Value.toValue?_integer hfits)
  have hrange : 0 ≤ b.number ∧ b.number < twoTo 32 := ⟨hlow, hhigh⟩
  rw [shiftAmount, hconvert]
  exact if_pos hrange

theorem exists_shiftAmount_error (h : b.number < 0 ∨ 2 ^ 32 ≤ b.number) :
    ∃ e, op.shiftAmount b.value = .error e := by
  by_cases hfits : IntType.int64.Fits b.number
  · have hconvert := Value.convert_of_toValue? b.number?_eq (Value.toValue?_integer hfits)
    have hrange : ¬ (0 ≤ b.number ∧ b.number < twoTo 32) := by
      have htwo : (twoTo 32 : ℤ) = 2 ^ 32 := by decide
      rw [htwo]
      omega
    rw [shiftAmount, hconvert]
    exact ⟨_, if_neg hrange⟩
  · have hwhole : ¬ IntType.int64.Fits (wholePart b.number) := by rwa [wholePart_intCast]
    rw [shiftAmount, Value.convert_integer_eq b.toRat?_eq, dif_neg hwhole]
    exact ⟨_, rfl⟩

theorem apply_shift {k : ℕ} (hop : op.isBitwise = true) (hshift : op.isShift = true)
    (hamount : op.shiftAmount b.value = .ok k) :
    op.apply a.value b.value = .ok (op.shiftInteger a.shiftedType a.number k) := by
  rw [apply_of_isBitwise hop, bitwise_eq_shift hshift, shift, hamount]
  obtain ⟨a, ha⟩ := a
  cases a with
  | boolean | integer => rfl
  | decimal | double | undefined | string | guid | dateTime => cases ha

/-- What the shifts have to give: as long as the amount is less than the width, the product with a
power of two modulo two to the width, and the quotient rounded down; and failures for amounts that
are no natural numbers of 32 bits. -/
structure Shifts (a b : IntegralValue) : Prop where
  left : 0 ≤ b.number → b.number < a.shiftedType.bits → ∃ r : Word a.shiftedType,
    shiftLeft.apply a.value b.value = .ok (.integer a.shiftedType r) ∧
      r.toInt ≡ a.number * 2 ^ b.number.toNat [ZMOD 2 ^ a.shiftedType.bits]
  right : 0 ≤ b.number → b.number < a.shiftedType.bits → ∃ r : Word a.shiftedType,
    shiftRight.apply a.value b.value = .ok (.integer a.shiftedType r) ∧
      r.toInt = ⌊(a.number : ℚ) / 2 ^ b.number.toNat⌋
  outside : b.number < 0 ∨ 2 ^ 32 ≤ b.number →
    (∃ e, shiftLeft.apply a.value b.value = .error e) ∧
      ∃ e, shiftRight.apply a.value b.value = .error e

theorem shifts (a b : IntegralValue) : Shifts a b := by
  have hbits : (a.shiftedType.bits : ℤ) ≤ 64 := by
    cases a.shiftedType <;> decide
  have hamount {op : Operator} (hlow : 0 ≤ b.number) (hhigh : b.number < a.shiftedType.bits) :
      op.shiftAmount b.value = .ok b.number.toNat :=
    shiftAmount_of_nonneg hlow (by omega)
  constructor
  · intro hlow hhigh
    have hk : b.number.toNat < a.shiftedType.bits := by omega
    rw [apply_shift rfl rfl (hamount hlow hhigh)]
    exact ⟨_, rfl, Word.shiftLeft_modEq hk a.number⟩
  · intro hlow hhigh
    have hk : b.number.toNat < a.shiftedType.bits := by omega
    rw [apply_shift rfl rfl (hamount hlow hhigh)]
    exact ⟨_, rfl, Word.toInt_shiftRight hk a.fits_shiftedType⟩
  · intro houtside
    have hfails {op : Operator} (hop : op.isBitwise = true) (hshift : op.isShift = true) :
        ∃ e, op.apply a.value b.value = .error e := by
      obtain ⟨e, he⟩ := exists_shiftAmount_error houtside
      rw [apply_of_isBitwise hop, bitwise_eq_shift hshift, shift, he]
      exact ⟨e, rfl⟩
    exact ⟨hfails rfl rfl, hfails rfl rfl⟩

/-- Operators on bits give, for Booleans and integers of any types, the values of the operations on
their numbers in two's complement without end, and fail just for a signed integer beside a UInt64.
Shifts by less than the width multiply and divide by powers of two in the type of what is
shifted. -/
theorem bitwise_of_numbers (a b : IntegralValue) :
    CombinesBits bitwiseAnd Int.land a b ∧ CombinesBits bitwiseOr Int.lor a b ∧
      CombinesBits bitwiseXor Int.xor a b ∧ Shifts a b :=
  ⟨combinesBits_and a b, combinesBits_or a b, combinesBits_xor a b, shifts a b⟩

/-- The sign of an Int32 goes on in the Int64 that it is widened to beside a UInt32. -/
example : bitwiseOr.apply (.int32 (-2)) (.integer .uint32 (.wrap .uint32 1)) =
    .ok (.integer .int64 (.wrap .int64 (-1))) := by decide

end Operator

end RowFilter
