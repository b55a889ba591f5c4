import RowFilter.Evaluation.Bitwise
import RowFilter.Proofs.Value.Promotion

/-!
Booleans and integers as operands. Two of them are combined in a type that holds both of their
numbers, an integer type or that of decimals, so that no operand is lost on the way there.
-/

namespace RowFilter

/-! ## The type in which operands are combined -/

namespace ValueType

/-- The type in which two operands are combined: the one they are promoted to, or Int32 for two
Booleans. -/
def combined? (s t : ValueType) : Option ValueType :=
  if s = boolean ∧ t = boolean then some int32 else s.promote? t

/-- The types of Booleans and integers. -/
def integralTypes : List ValueType := [boolean, int32, int64, uint32, uint64]

theorem mem_integralTypes {t : ValueType} (h : t.isIntegral = true) : t ∈ integralTypes := by
  cases t with
  | boolean => decide
  | integer t => cases t <;> decide
  | decimal | double | string | guid | dateTime | undefined => cases h

/-- Booleans and integers are combined in a type that holds both, as integers or as decimals. -/
theorem exists_combined? {s t : ValueType} (hs : s.isIntegral = true) (ht : t.isIntegral = true) :
    ∃ u, s.combined? t = some u ∧ u.holds s = true ∧ u.holds t = true ∧
      (u.isInteger = true ∨ u = .decimal) := by
  have hall : ∀ s ∈ integralTypes, ∀ t ∈ integralTypes,
      ∃ u ∈ s.combined? t, u.holds s = true ∧ u.holds t = true ∧
        (u.isInteger = true ∨ u = .decimal) := by decide
  exact hall s (mem_integralTypes hs) t (mem_integralTypes ht)

/-- Only Booleans are promoted to a Boolean. -/
theorem eq_boolean_of_promote? {s t : ValueType} (h : s.promote? t = some .boolean) :
    s = .boolean ∧ t = .boolean := by
  have hall : ∀ s ∈ rankedTypes, ∀ t ∈ rankedTypes, s.promote? t = some .boolean →
      s = .boolean ∧ t = .boolean := by decide
  have hranked := isSome_rank?_of_promote? h
  exact hall s (mem_rankedTypes hranked.1) t (mem_rankedTypes hranked.2) h

end ValueType

namespace Operator

/-- Operators ask for the common type of their operands and get the one they are combined in. -/
theorem commonType_of_combined? {s t u : ValueType} (op : Operator) (h : s.combined? t = some u) :
    op.commonType s t = .ok u := by
  rw [commonType]
  by_cases hboolean : s = .boolean ∧ t = .boolean
  · rw [ValueType.combined?, if_pos hboolean] at h
    obtain rfl : ValueType.int32 = u := Option.some.inj h
    rw [hboolean.1, hboolean.2]
    rfl
  · rw [ValueType.combined?, if_neg hboolean] at h
    rw [h]
    -- the type is not that of Booleans, since not both operands are
    cases u with
    | boolean => exact absurd (ValueType.eq_boolean_of_promote? h) hboolean
    | _ => rfl

end Operator

/-! ## Booleans and integers -/

/-- A Boolean or an integer. -/
structure IntegralValue where
  value : Value
  isIntegral : value.valueType.isIntegral = true

namespace IntegralValue

/-- The number that the value stands for, a Boolean being zero or one. -/
def number (a : IntegralValue) : ℤ :=
  match a.value with
  | .boolean b => if b then 1 else 0
  | .integer _ n => n.toInt
  | _ => 0

theorem number?_eq (a : IntegralValue) : a.value.number? = some (.integer a.number) := by
  obtain ⟨v, hv⟩ := a
  cases v with
  | boolean | integer => rfl
  | decimal | double | undefined | string | guid | dateTime => cases hv

theorem toRat?_eq (a : IntegralValue) : a.value.toRat? = some (a.number : ℚ) := by
  rw [Value.toRat?, a.number?_eq]
  rfl

end IntegralValue

end RowFilter
