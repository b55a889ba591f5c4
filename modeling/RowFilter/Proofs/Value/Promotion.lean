import RowFilter.Evaluation.Operator
import RowFilter.Proofs.Number.Decimal
import RowFilter.Proofs.Value.SortKey

/-!
Promotion of Booleans, integers and decimals. The type that two of them are promoted to holds every
number of both types, so an operand keeps its number on the way there, and two operands are compared
as the numbers that they stand for.
-/

namespace RowFilter

/-! ## Types -/

namespace ValueType

/-- The values of the type are Booleans or exact numbers. -/
def isExact : ValueType → Bool
  | boolean | integer _ | decimal => true
  | _ => false

/-- Every number of the second type is one of the first, a Boolean being zero or one. -/
def holds : ValueType → ValueType → Bool
  | boolean, s => s = boolean
  | integer _, boolean => true
  | integer t, integer s => t.least ≤ s.least ∧ s.greatest ≤ t.greatest
  | decimal, s => s.isExact
  | _, _ => false

/-- The exact types. -/
def exactTypes : List ValueType := [boolean, int32, int64, uint32, uint64, decimal]

theorem mem_exactTypes {t : ValueType} (h : t.isExact = true) : t ∈ exactTypes := by
  cases t with
  | boolean | decimal => decide
  | integer t => cases t <;> decide
  | double | string | guid | dateTime | undefined => cases h

/-- The types that can be promoted. -/
def rankedTypes : List ValueType := exactTypes ++ [double]

theorem mem_rankedTypes {t : ValueType} (h : t.rank?.isSome = true) : t ∈ rankedTypes := by
  cases t with
  | boolean | decimal | double => decide
  | integer t => cases t <;> decide
  | string | guid | dateTime | undefined => cases h

theorem isSome_rank?_of_promote? {s t u : ValueType} (h : s.promote? t = some u) :
    s.rank?.isSome = true ∧ t.rank?.isSome = true := by
  rw [promote?] at h
  cases hs : s.rank? with
  | none =>
    rw [hs] at h
    cases h
  | some m =>
    cases ht : t.rank? with
    | none =>
      rw [hs, ht] at h
      cases h
    | some n => exact ⟨rfl, rfl⟩

/-- Two exact types are promoted to one that holds both. -/
theorem promote?_of_isExact {s t : ValueType} (hs : s.isExact = true) (ht : t.isExact = true) :
    ∃ u, s.promote? t = some u ∧ u.holds s = true ∧ u.holds t = true := by
  have hall : ∀ s ∈ exactTypes, ∀ t ∈ exactTypes,
      ∃ u ∈ s.promote? t, u.holds s = true ∧ u.holds t = true := by decide
  exact hall s (mem_exactTypes hs) t (mem_exactTypes ht)

theorem isExact_of_holds {s t : ValueType} (h : t.holds s = true) : t.isExact = true := by
  cases t with
  | boolean | integer | decimal => rfl
  | double | string | guid | dateTime | undefined => cases h

theorem eq_of_promote?_self {t u : ValueType} (h : t.promote? t = some u) : u = t := by
  cases t with
  | integer t => cases t <;> exact (Option.some.inj h).symm
  | boolean | decimal | double => exact (Option.some.inj h).symm
  | string | guid | dateTime | undefined => cases h

end ValueType

/-! ## Numbers -/

namespace Number

/-- The number itself, if it is an exact one. -/
def toRat? : Number → Option ℚ
  | integer n => some n
  | decimal d => some d.value
  | double _ => none

end Number

namespace Value

/-- The number of a Boolean, an integer or a decimal. -/
def toRat? (v : Value) : Option ℚ := v.number?.bind Number.toRat?

theorem isExact_of_toRat? {v : Value} {x : ℚ} (h : v.toRat? = some x) :
    v.valueType.isExact = true := by
  cases v with
  | boolean | integer | decimal => rfl
  | double | string | guid | dateTime | undefined => cases h

theorem valueType_ne_string_of_toRat? {v : Value} {x : ℚ} (h : v.toRat? = some x) :
    v.valueType ≠ .string := by
  intro htext
  have hexact := isExact_of_toRat? h
  rw [htext] at hexact
  cases hexact

theorem isSome_toRat? {v : Value} (h : v.valueType.isExact = true) : v.toRat?.isSome = true := by
  cases v with
  | boolean | integer | decimal => rfl
  | double | string | guid | dateTime | undefined => cases h

/-- An exact number is what a value is ordered by. -/
theorem sortKey_of_toRat? {v : Value} {x : ℚ} (exact : Bool) (h : v.toRat? = some x) :
    v.sortKey exact = .ofNumber (x : WithTop ℚ) := by
  cases v with
  | boolean b =>
    obtain rfl := Option.some.inj h
    cases b <;> rfl
  | integer t n =>
    obtain rfl := Option.some.inj h
    rfl
  | decimal d =>
    obtain rfl := Option.some.inj h
    rfl
  | double | string | guid | dateTime | undefined => cases h

/-! ## Conversion -/

/-- A number enters a type as it does on its own, whatever value it comes in. -/
theorem convert_of_toValue? {v w : Value} {x : Number} {target : ValueType}
    (hv : v.number? = some x) (hw : x.toValue? target = some w) : v.convert target = .ok w := by
  unfold convert
  split
  · next hsame =>
    -- in its own type the number is the value that it comes from
    subst hsame
    cases v with
    | boolean b =>
      obtain rfl := Option.some.inj hv
      cases b <;> exact congrArg Except.ok (Option.some.inj hw)
    | integer t n =>
      obtain rfl := Option.some.inj hv
      have hself : Word.ofInt? t n.toInt = some n := Word.ofInt?_eq_some_iff.mpr rfl
      simp only [Number.toValue?, valueType, Number.truncate?, Option.bind_some, hself] at hw
      exact congrArg Except.ok (Option.some.inj hw)
    | decimal d =>
      obtain rfl := Option.some.inj hv
      exact congrArg Except.ok (Option.some.inj hw)
    | double x =>
      obtain rfl := Option.some.inj hv
      exact congrArg Except.ok (Option.some.inj hw)
    | undefined | string | guid | dateTime => cases hv
  · cases v with
    | undefined | string | guid | dateTime => cases hv
    | boolean | integer | decimal | double =>
      cases target with
      | string | guid | dateTime | undefined => cases hw
      | boolean | integer | decimal | double => simp only [hv, Option.bind_some, hw]

/-- A number that lies in the range of an integer type is a value of it. -/
theorem toValue?_integer {n : ℤ} {t : IntType} (h : t.Fits n) :
    (Number.integer n).toValue? (.integer t) = some (.integer t ⟨n, h⟩) := by
  have hword : Word.ofInt? t n = some ⟨n, h⟩ := Word.ofInt?_eq_some_iff.mpr rfl
  simp only [Number.toValue?, Number.truncate?, Option.bind_some, hword, Option.map_some]

/-- A Boolean or an integer has a number in the range of each integer type that holds its type. -/
theorem fits_of_holds {v : Value} {n : ℤ} {t : IntType} (hv : v.number? = some (.integer n))
    (ht : (ValueType.integer t).holds v.valueType = true) : t.Fits n := by
  cases v with
  | boolean b =>
    obtain rfl : (if b then 1 else 0) = n := Number.integer.inj (Option.some.inj hv)
    cases t <;> cases b <;> decide
  | integer s m =>
    obtain rfl : m.toInt = n := Number.integer.inj (Option.some.inj hv)
    have hrange : t.least ≤ s.least ∧ s.greatest ≤ t.greatest := of_decide_eq_true ht
    exact ⟨hrange.1.trans m.fits.1, m.fits.2.trans hrange.2⟩
  | decimal | double | undefined | string | guid | dateTime => cases hv

/-- Conversion of a Boolean or an integer to an integer type that holds its type keeps the
number. -/
theorem convert_integer {v : Value} {n : ℤ} {t : IntType} (hv : v.number? = some (.integer n))
    (ht : (ValueType.integer t).holds v.valueType = true) :
    v.convert (.integer t) = .ok (.integer t ⟨n, fits_of_holds hv ht⟩) :=
  convert_of_toValue? hv (toValue?_integer _)

/-- Conversion of an exact number to decimal keeps the number. -/
theorem convert_decimal {v : Value} {x : ℚ} (hv : v.toRat? = some x) :
    ∃ d : Decimal, v.convert .decimal = .ok (.decimal d) ∧ d.value = x := by
  obtain ⟨number, hnumber, hx⟩ := Option.bind_eq_some_iff.mp hv
  cases number with
  | integer n =>
    obtain rfl : (n : ℚ) = x := Option.some.inj hx
    exact ⟨.ofInt n, convert_of_toValue? hnumber rfl, Decimal.value_ofInt n⟩
  | decimal d =>
    obtain rfl : d.value = x := Option.some.inj hx
    exact ⟨d, convert_of_toValue? hnumber rfl, rfl⟩
  | double y => cases hx

/-- Conversion to a type that holds the type of an exact number keeps the number. -/
theorem convert_of_holds {v : Value} {x : ℚ} {t : ValueType} (hv : v.toRat? = some x)
    (ht : t.holds v.valueType = true) :
    ∃ w, v.convert t = .ok w ∧ w.valueType = t ∧ w.toRat? = some x := by
  cases t with
  | boolean =>
    have htype : v.valueType = .boolean := of_decide_eq_true ht
    exact ⟨v, htype ▸ v.convert_self, htype, hv⟩
  | integer t =>
    obtain ⟨number, hnumber, hx⟩ := Option.bind_eq_some_iff.mp hv
    cases number with
    | integer n => exact ⟨_, convert_integer hnumber ht, rfl, hx⟩
    | decimal d =>
      -- no integer type holds the decimals
      cases v with
      | decimal => cases ht
      | boolean | integer | double | undefined | string | guid | dateTime => cases hnumber
    | double y => cases hx
  | decimal =>
    obtain ⟨d, hd, hvalue⟩ := convert_decimal hv
    exact ⟨.decimal d, hd, rfl, congrArg some hvalue⟩
  | double | string | guid | dateTime | undefined => cases ht

/-! ## Comparison -/

/-- Where two types can be promoted, values are compared in the promoted type. -/
theorem commonType?_of_promote? {s t u : ValueType} (h : s.promote? t = some u) :
    commonType? s t = some u := by
  rw [commonType?]
  by_cases hsame : s = t
  · subst hsame
    rw [if_pos rfl, ValueType.eq_of_promote?_self h]
  · rw [if_neg hsame, h]

/-- Ordinary comparison converts both values to the common type. -/
theorem compare_of_convert {a b v w : Value} {t : ValueType}
    (htype : commonType? a.valueType b.valueType = some t) (hdefined : t ≠ .undefined)
    (ha : a.convert t = .ok v) (hb : b.convert t = .ok w) :
    a.compare b false = .ok (compareSame false v w) := by
  have hfilter : (commonType? a.valueType b.valueType).filter (· ≠ .undefined) = some t := by
    rw [htype, Option.filter_some, if_pos (decide_eq_true hdefined)]
  rw [compare, if_neg (fun h => Bool.false_ne_true h.1), hfilter]
  dsimp only
  rw [ha, hb]
  rfl

/-- An exact number is neither undefined nor a NaN. -/
theorem sortGroup_of_toRat? {v : Value} {x : ℚ} (h : v.toRat? = some x) : v.sortGroup = 2 := by
  cases v with
  | boolean | integer | decimal => rfl
  | double | string | guid | dateTime | undefined => cases h

/-- Exact numbers of one type are ordered as numbers. -/
theorem exists_compareSame_of_toRat? {v w : Value} {x y : ℚ} (htype : v.valueType = w.valueType)
    (hv : v.toRat? = some x) (hw : w.toRat? = some y) :
    ∃ order, compareSame false v w = some order ∧ order.Compares x y := by
  obtain ⟨order, hsame, hcompares⟩ :=
    exists_compareSame false htype (sortGroup_of_toRat? hv) (sortGroup_of_toRat? hw)
  rw [sortKey_of_toRat? false hv, sortKey_of_toRat? false hw] at hcompares
  exact ⟨order, hsame, SortKey.strictMono_ofRational.compares.mp hcompares⟩

/-- Exact numbers of any types are compared as numbers. -/
theorem exists_compare_of_toRat? {a b : Value} {x y : ℚ} (ha : a.toRat? = some x)
    (hb : b.toRat? = some y) :
    ∃ order, a.compare b false = .ok (some order) ∧ order.Compares x y := by
  obtain ⟨t, hpromote, hta, htb⟩ :=
    ValueType.promote?_of_isExact (isExact_of_toRat? ha) (isExact_of_toRat? hb)
  obtain ⟨v, hv, hvtype, hvx⟩ := convert_of_holds ha hta
  obtain ⟨w, hw, hwtype, hwy⟩ := convert_of_holds hb htb
  have hdefined : t ≠ .undefined := by
    intro h
    have hexact := ValueType.isExact_of_holds hta
    rw [h] at hexact
    cases hexact
  obtain ⟨order, hsame, hcompares⟩ :=
    exists_compareSame_of_toRat? (hvtype.trans hwtype.symm) hvx hwy
  refine ⟨order, ?_, hcompares⟩
  rw [compare_of_convert (commonType?_of_promote? hpromote) hdefined hv hw, hsame]

end Value

/-! ## Operators -/

theorem Value.isUndefined_of_toRat? {v : Value} {x : ℚ} (h : v.toRat? = some x) :
    v.isUndefined = false := by
  cases v with
  | undefined => cases h
  | _ => rfl

/-- Exact numbers are defined, so that an operator looks at both of them. -/
theorem Operator.apply_of_toRat? (op : Operator) {a b : Value} {x y : ℚ} (ha : a.toRat? = some x)
    (hb : b.toRat? = some y) :
    op.apply a b =
      if op.isComparison then op.comparison a b
      else if op.isLike then op.likeness a b
      else if op.isBitwise then op.bitwise a b
      else op.arithmetic a b := by
  have hdefined : (a.isUndefined || b.isUndefined) = false := by
    rw [Value.isUndefined_of_toRat? ha, Value.isUndefined_of_toRat? hb, Bool.false_or]
  rw [apply, if_neg (Bool.eq_false_iff.mp hdefined)]

/-! ## The order of exact values -/

/-- A Boolean, an integer or a decimal. -/
structure ExactValue where
  value : Value
  isExact : value.valueType.isExact = true

namespace ExactValue

variable {a b : ExactValue}

/-- The number that the value stands for, a Boolean being zero or one. -/
def number (a : ExactValue) : ℚ := a.value.toRat?.get (Value.isSome_toRat? a.isExact)

theorem toRat?_eq (a : ExactValue) : a.value.toRat? = some a.number := (Option.some_get _).symm

/-- The operator `=` holds. -/
def EqualTo (a b : ExactValue) : Prop :=
  Operator.equal.apply a.value b.value = .ok (.boolean true)

/-- The operator `<` holds. -/
def LessThan (a b : ExactValue) : Prop :=
  Operator.less.apply a.value b.value = .ok (.boolean true)

/-- What an ordinary comparison operator finds is the order of the numbers. -/
theorem exists_apply (op : Operator) (hop : op.isComparison = true) (hexact : op.isExact = false)
    (a b : ExactValue) :
    ∃ order, op.apply a.value b.value = .ok (.boolean (op.holds (some order))) ∧
      order.Compares a.number b.number := by
  obtain ⟨order, hcompare, hcompares⟩ := Value.exists_compare_of_toRat? a.toRat?_eq b.toRat?_eq
  refine ⟨order, ?_, hcompares⟩
  rw [op.apply_of_toRat? a.toRat?_eq b.toRat?_eq, if_pos hop, Operator.comparison, hexact, hcompare]
  rfl

theorem equalTo_iff : a.EqualTo b ↔ a.number = b.number := by
  obtain ⟨order, happly, hcompares⟩ := exists_apply .equal rfl rfl a b
  rw [EqualTo, happly, ← hcompares.eq_eq]
  cases order <;> simp [Operator.holds]

theorem lessThan_iff : a.LessThan b ↔ a.number < b.number := by
  obtain ⟨order, happly, hcompares⟩ := exists_apply .less rfl rfl a b
  rw [LessThan, happly, ← hcompares.eq_lt]
  cases order <;> simp [Operator.holds]

/-- Ordinary comparison of Booleans, integers and decimals never fails and finds the order of the
numbers, whatever the two types are. So `=` is an equivalence on them, and `<` a strict order that
is total up to `=`. -/
theorem compare_finds_order :
    (∀ a b : ExactValue, ∃ order, a.value.compare b.value false = .ok (some order) ∧
      order.Compares a.number b.number) ∧
    Equivalence EqualTo ∧
    (∀ a, ¬ LessThan a a) ∧
    (∀ a b c, LessThan a b → LessThan b c → LessThan a c) ∧
    (∀ a b, LessThan a b ∨ EqualTo a b ∨ LessThan b a) ∧
    (∀ a b, EqualTo a b → ¬ LessThan a b) ∧
    (∀ a a' b b', EqualTo a a' → EqualTo b b' → (LessThan a b ↔ LessThan a' b')) := by
  have hcompare (a b : ExactValue) := Value.exists_compare_of_toRat? a.toRat?_eq b.toRat?_eq
  have hequivalence : Equivalence EqualTo := by
    constructor
    · intro a
      exact equalTo_iff.mpr rfl
    · intro a b h
      exact equalTo_iff.mpr (equalTo_iff.mp h).symm
    · intro a b c h h'
      exact equalTo_iff.mpr ((equalTo_iff.mp h).trans (equalTo_iff.mp h'))
  have hirrefl (a) : ¬ LessThan a a := by
    intro h
    exact lt_irrefl _ (lessThan_iff.mp h)
  have htrans (a b c) (h : LessThan a b) (h' : LessThan b c) : LessThan a c :=
    lessThan_iff.mpr ((lessThan_iff.mp h).trans (lessThan_iff.mp h'))
  have htotal (a b) : LessThan a b ∨ EqualTo a b ∨ LessThan b a := by
    rw [lessThan_iff, equalTo_iff, lessThan_iff]
    exact lt_trichotomy _ _
  have hexclusive (a b) (h : EqualTo a b) : ¬ LessThan a b := by
    intro h'
    exact (lessThan_iff.mp h').ne (equalTo_iff.mp h)
  have hcongr (a a' b b') (ha : EqualTo a a') (hb : EqualTo b b') :
      LessThan a b ↔ LessThan a' b' := by
    rw [lessThan_iff, lessThan_iff, equalTo_iff.mp ha, equalTo_iff.mp hb]
  exact ⟨hcompare, hequivalence, hirrefl, htrans, htotal, hexclusive, hcongr⟩

/-- The least Int64, the greatest UInt64 and a decimal just above it. -/
theorem compare_finds_order_of_extremes :
    LessThan ⟨.integer .int64 (.wrap .int64 (-2 ^ 63)), rfl⟩
        ⟨.integer .uint64 (.wrap .uint64 (2 ^ 64 - 1)), rfl⟩ ∧
      LessThan ⟨.integer .uint64 (.wrap .uint64 (2 ^ 64 - 1)), rfl⟩
        ⟨.decimal ⟨184467440737095516151, 1⟩, rfl⟩ ∧
      LessThan ⟨.integer .int64 (.wrap .int64 (-2 ^ 63)), rfl⟩
        ⟨.decimal ⟨184467440737095516151, 1⟩, rfl⟩ := by
  have hab : LessThan ⟨.integer .int64 (.wrap .int64 (-2 ^ 63)), rfl⟩
      ⟨.integer .uint64 (.wrap .uint64 (2 ^ 64 - 1)), rfl⟩ := by
    rw [LessThan]
    decide +kernel
  have hbc : LessThan ⟨.integer .uint64 (.wrap .uint64 (2 ^ 64 - 1)), rfl⟩
      ⟨.decimal ⟨184467440737095516151, 1⟩, rfl⟩ := by
    rw [LessThan]
    decide +kernel
  exact ⟨hab, hbc, compare_finds_order.2.2.2.1 _ _ _ hab hbc⟩

end ExactValue

end RowFilter
