import RowFilter.Evaluation.Operator
import RowFilter.Proofs.Number.Wrap
import RowFilter.Proofs.Outcome
import RowFilter.Proofs.Value.Integral

/-!
Arithmetic on Booleans and integers. In an integer type the results are those of the numbers modulo
two to the width, and in decimals they are exact. Unary minus is subtraction from zero.
-/

namespace RowFilter

namespace Operator

/-- The operators of arithmetic. -/
def isArithmetic : Operator → Bool
  | add | subtract | multiply | divide | modulus => true
  | _ => false

/-! ## Operands -/

/-- An operator of arithmetic takes exact numbers in the type in which they are combined. -/
theorem apply_of_combined? {op : Operator} {a b v w : Value} {x y : ℚ} {t : ValueType}
    (hop : op.isArithmetic = true) (ha : a.toRat? = some x) (hb : b.toRat? = some y)
    (htype : a.valueType.combined? b.valueType = some t) (hv : a.convert t = .ok v)
    (hw : b.convert t = .ok w) : op.apply a b = op.arithmeticSame v w := by
  have harithmetic : op.apply a b = op.arithmetic a b := by
    rw [op.apply_of_toRat? ha hb]
    cases op with
    | add | subtract | multiply | divide | modulus => rfl
    | _ => cases hop
  -- an exact number is no text, so that addition does not join texts
  have hnumbers : ¬ (op = add ∧ (a.valueType = .string ∨ b.valueType = .string)) := by
    rintro ⟨-, htext | htext⟩
    · exact Value.valueType_ne_string_of_toRat? ha htext
    · exact Value.valueType_ne_string_of_toRat? hb htext
  rw [harithmetic, arithmetic, if_neg hnumbers, op.commonType_of_combined? htype, ok_bind, hv,
    ok_bind, hw, ok_bind]

/-- Arithmetic in an integer type is that of the numbers of its operands. -/
theorem apply_integer {op : Operator} {a b : Value} {m n : ℤ} {t : IntType}
    (hop : op.isArithmetic = true) (ha : a.number? = some (.integer m))
    (hb : b.number? = some (.integer n))
    (htype : a.valueType.combined? b.valueType = some (.integer t))
    (hta : (ValueType.integer t).holds a.valueType = true)
    (htb : (ValueType.integer t).holds b.valueType = true) :
    op.apply a b = op.integerArithmetic t m n := by
  have hm : a.toRat? = some (m : ℚ) := by
    rw [Value.toRat?, ha]
    rfl
  have hn : b.toRat? = some (n : ℚ) := by
    rw [Value.toRat?, hb]
    rfl
  exact apply_of_combined? hop hm hn htype (Value.convert_integer ha hta)
    (Value.convert_integer hb htb)

/-- Arithmetic in decimals is that of decimals which stand for the numbers of its operands. -/
theorem exists_apply_decimal {a b : Value} {x y : ℚ} (ha : a.toRat? = some x)
    (hb : b.toRat? = some y) (htype : a.valueType.combined? b.valueType = some .decimal) :
    ∃ d e : Decimal, d.value = x ∧ e.value = y ∧
      ∀ op : Operator, op.isArithmetic = true → op.apply a b = op.decimalArithmetic d e := by
  obtain ⟨d, hd, hx⟩ := Value.convert_decimal ha
  obtain ⟨e, he, hy⟩ := Value.convert_decimal hb
  refine ⟨d, e, hx, hy, ?_⟩
  intro op hop
  exact apply_of_combined? hop ha hb htype hd he

/-! ## Results -/

/-- What the operators have to give for the numbers `m` and `n` in an integer type: sums,
differences and products modulo two to the width, and a quotient and a remainder unless the divisor
is zero. -/
structure WrapsAround (t : IntType) (m n : ℤ) (result : Operator → Except Error Value) : Prop where
  add : ∃ r : Word t, result .add = .ok (.integer t r) ∧ r.toInt ≡ m + n [ZMOD 2 ^ t.bits]
  subtract : ∃ r : Word t, result .subtract = .ok (.integer t r) ∧
    r.toInt ≡ m - n [ZMOD 2 ^ t.bits]
  multiply : ∃ r : Word t, result .multiply = .ok (.integer t r) ∧
    r.toInt ≡ m * n [ZMOD 2 ^ t.bits]
  divide_zero : n = 0 → result .divide = .error (zeroDivision .divide) ∧
    result .modulus = .error (zeroDivision .modulus)
  divide : n ≠ 0 → ∃ q r : Word t, result .divide = .ok (.integer t q) ∧
    result .modulus = .ok (.integer t r) ∧ Word.IsDivision m n q r

/-- Operators that are carried out in an integer type on two of its numbers wrap around. -/
theorem wrapsAround {t : IntType} {m n : ℤ} {result : Operator → Except Error Value}
    (hm : t.Fits m) (hn : t.Fits n)
    (hresult : ∀ op : Operator, op.isArithmetic = true → result op = op.integerArithmetic t m n) :
    WrapsAround t m n result := by
  have hdivide : result divide = if n = 0 then .error divide.zeroDivision else
      .ok (.integer t (.quotient t m n)) := hresult divide rfl
  have hmodulus : result modulus = if n = 0 then .error modulus.zeroDivision else
      .ok (.integer t (.remainder t m n)) := hresult modulus rfl
  constructor
  · exact ⟨.add t m n, hresult add rfl, t.reduce_modEq _⟩
  · exact ⟨.sub t m n, hresult subtract rfl, t.reduce_modEq _⟩
  · exact ⟨.mul t m n, hresult multiply rfl, t.reduce_modEq _⟩
  · intro hzero
    rw [hdivide, hmodulus, if_pos hzero, if_pos hzero]
    exact ⟨rfl, rfl⟩
  · intro hzero
    rw [hdivide, hmodulus, if_neg hzero, if_neg hzero]
    exact ⟨_, _, rfl, rfl, Word.isDivision hm hn hzero⟩

/-- What the operators have to give for the numbers `x` and `y` in decimals. -/
structure ExactInDecimals (x y : ℚ) (result : Operator → Except Error Value) : Prop where
  add : ∃ d : Decimal, result .add = .ok (.decimal d) ∧ d.value = x + y
  subtract : ∃ d : Decimal, result .subtract = .ok (.decimal d) ∧ d.value = x - y
  multiply : ∃ d : Decimal, result .multiply = .ok (.decimal d) ∧ d.value = x * y

/-- Operators that are carried out on decimals are exact. -/
theorem exactInDecimals {d e : Decimal} {result : Operator → Except Error Value}
    (hresult : ∀ op : Operator, op.isArithmetic = true → result op = op.decimalArithmetic d e) :
    ExactInDecimals d.value e.value result where
  add := ⟨d.add e, hresult add rfl, Decimal.value_add d e⟩
  subtract := ⟨d.sub e, hresult subtract rfl, Decimal.value_sub d e⟩
  multiply := ⟨d.mul e, hresult multiply rfl, Decimal.value_mul d e⟩

/-! ## Subtraction from zero -/

theorem subtract_zero_integer {v : Value} {n : ℤ} {t : IntType} (hv : v.number? = some (.integer n))
    (htype : ValueType.int32.combined? v.valueType = some (.integer t))
    (hint32 : (ValueType.integer t).holds .int32 = true)
    (htv : (ValueType.integer t).holds v.valueType = true) :
    subtract.apply (.int32 0) v = .ok (.integer t (.wrap t (-n))) := by
  have hzero : (Value.int32 0).number? = some (.integer 0) := by decide
  rw [apply_integer rfl hzero hv htype hint32 htv, ← zero_sub]
  rfl

theorem exists_subtract_zero_decimal {v : Value} {x : ℚ} (hv : v.toRat? = some x)
    (htype : ValueType.int32.combined? v.valueType = some .decimal) :
    ∃ d : Decimal, subtract.apply (.int32 0) v = .ok (.decimal d) ∧ d.value = -x := by
  have hzero : (Value.int32 0).toRat? = some 0 := rfl
  obtain ⟨d, e, hd, he, happly⟩ := exists_apply_decimal hzero hv htype
  refine ⟨d.sub e, happly _ rfl, ?_⟩
  rw [Decimal.value_sub, hd, he, zero_sub]

end Operator

/-- Of one type and of one number. -/
def Value.SameNumber (v w : Value) : Prop :=
  v.valueType = w.valueType ∧ ∃ x, v.toRat? = some x ∧ w.toRat? = some x

namespace UnaryOperator

/-- Unary minus gives the type and the number that subtraction from zero gives. -/
theorem exists_minus (a : ExactValue) :
    ∃ v w, minus.apply a.value = .ok v ∧ Operator.subtract.apply (.int32 0) a.value = .ok w ∧
      v.SameNumber w := by
  obtain ⟨a, ha⟩ := a
  cases a with
  | boolean b =>
    refine ⟨_, _, rfl, Operator.subtract_zero_integer rfl rfl rfl rfl, rfl, ?_⟩
    cases b
    · exact ⟨_, rfl, rfl⟩
    · exact ⟨_, rfl, rfl⟩
  | integer t n =>
    cases t with
    | int32 | int64 | uint32 =>
      exact ⟨_, _, rfl, Operator.subtract_zero_integer rfl rfl rfl rfl, rfl, _, rfl, rfl⟩
    | uint64 =>
      -- no integer type holds the opposites of all of these
      have hn : (Value.integer .uint64 n).toRat? = some (n.toInt : ℚ) := rfl
      obtain ⟨d, hd, hvalue⟩ := Operator.exists_subtract_zero_decimal hn rfl
      refine ⟨_, _, rfl, hd, rfl, _, rfl, ?_⟩
      show some d.value = some (Decimal.ofInt (-n.toInt)).value
      rw [hvalue, Decimal.value_ofInt, Int.cast_neg]
  | decimal d =>
    have hd : (Value.decimal d).toRat? = some d.value := rfl
    obtain ⟨e, he, hvalue⟩ := Operator.exists_subtract_zero_decimal hd rfl
    refine ⟨_, _, rfl, he, rfl, _, rfl, ?_⟩
    show some e.value = some d.neg.value
    rw [hvalue, Decimal.value_neg]
  | double | string | guid | dateTime | undefined => cases ha

end UnaryOperator

/-- Booleans and integers reach the type in which they are combined with the numbers that they have.
In an integer type their sum, difference and product are exact modulo two to the width, division and
remainder fail for a zero divisor alone and are otherwise those of truncated division; in decimals
the results are exact. Unary minus is subtraction from an Int32 zero. -/
theorem IntegralValue.arithmetic_of_numbers :
    (∀ a b : IntegralValue, ∃ t v w,
      a.value.valueType.combined? b.value.valueType = some t ∧
      a.value.convert t = .ok v ∧ v.valueType = t ∧ v.toRat? = some (a.number : ℚ) ∧
      b.value.convert t = .ok w ∧ w.valueType = t ∧ w.toRat? = some (b.number : ℚ) ∧
      ((∃ u, t = .integer u ∧
          Operator.WrapsAround u a.number b.number fun op => op.apply a.value b.value) ∨
        (t = .decimal ∧
          Operator.ExactInDecimals a.number b.number fun op => op.apply a.value b.value))) ∧
    ∀ a : ExactValue, ∃ v w, UnaryOperator.minus.apply a.value = .ok v ∧
      Operator.subtract.apply (.int32 0) a.value = .ok w ∧ v.SameNumber w := by
  refine ⟨fun a b => ?_, UnaryOperator.exists_minus⟩
  obtain ⟨t, htype, hta, htb, hkind⟩ := ValueType.exists_combined? a.isIntegral b.isIntegral
  obtain ⟨v, hv, hvtype, hvnumber⟩ := Value.convert_of_holds a.toRat?_eq hta
  obtain ⟨w, hw, hwtype, hwnumber⟩ := Value.convert_of_holds b.toRat?_eq htb
  refine ⟨t, v, w, htype, hv, hvtype, hvnumber, hw, hwtype, hwnumber, ?_⟩
  cases t with
  | integer u =>
    have hfits : u.Fits a.number := Value.fits_of_holds a.number?_eq hta
    have hfits' : u.Fits b.number := Value.fits_of_holds b.number?_eq htb
    have hresult (op : Operator) (hop : op.isArithmetic = true) :=
      Operator.apply_integer hop a.number?_eq b.number?_eq htype hta htb
    exact .inl ⟨u, rfl, Operator.wrapsAround hfits hfits' hresult⟩
  | decimal =>
    obtain ⟨d, e, hd, he, hresult⟩ :=
      Operator.exists_apply_decimal a.toRat?_eq b.toRat?_eq htype
    rw [← hd, ← he]
    exact .inr ⟨rfl, Operator.exactInDecimals hresult⟩
  | boolean | double | string | guid | dateTime | undefined =>
    -- two Booleans are combined as Int32, and the other types hold no numbers of integers
    rcases hkind with hinteger | hdecimal
    · cases hinteger
    · cases hdecimal

/-- The one quotient that leaves its type is reduced to it. -/
example : Operator.divide.apply (.int32 (-2 ^ 31)) (.int32 (-1)) = .ok (.int32 (-2 ^ 31)) := by
  decide

end RowFilter
