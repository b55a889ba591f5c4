import RowFilter.Proofs.Value.Promotion

/-!
Comparison in the other direction. Two values of any types are compared in the same type either way,
so that the comparison fails both ways or gives opposite orders.
-/

namespace RowFilter

/-! ## The common type -/

namespace ValueType

theorem promote?_comm (s t : ValueType) : s.promote? t = t.promote? s := by
  have hall : ∀ s ∈ rankedTypes, ∀ t ∈ rankedTypes, s.promote? t = t.promote? s := by decide
  cases hs : s.rank? with
  | none =>
    rw [promote?, promote?, hs]
    cases t.rank? <;> rfl
  | some m =>
    cases ht : t.rank? with
    | none =>
      rw [promote?, promote?, ht]
      cases s.rank? <;> rfl
    | some n =>
      exact hall s (mem_rankedTypes (Option.isSome_of_eq_some hs)) t
        (mem_rankedTypes (Option.isSome_of_eq_some ht))

end ValueType

namespace Value

theorem commonType?_comm (s t : ValueType) : commonType? s t = commonType? t s := by
  rw [commonType?, commonType?, ValueType.promote?_comm s t]
  by_cases hsame : s = t
  · rw [if_pos hsame, if_pos hsame.symm, hsame]
  · rw [if_neg hsame, if_neg (Ne.symm hsame)]
    cases t.promote? s with
    | some u => rfl
    | none =>
      -- at most one of two different types is that of texts
      by_cases hs : s = .string
      · have ht : t ≠ .string := fun ht => hsame (hs.trans ht.symm)
        simp only [if_pos hs, if_neg ht]
      · simp only [if_neg hs]

end Value

/-! ## Values of one type -/

/-- An order found in both directions is found reversed. -/
theorem eq_swap_of_compares {α : Type} [Preorder α] {o p : Ordering} {x y : α}
    (ho : o.Compares x y) (hp : p.Compares y x) : p = o.swap :=
  hp.inj (Ordering.compares_swap.mpr ho)

theorem Double.compare?_swap (x y : Float) :
    compare? y x = (compare? x y).map Ordering.swap := by
  rw [compare?, compare?, Bool.or_comm]
  by_cases hnan : (isNaN x || isNaN y) = true
  · rw [if_pos hnan, if_pos hnan]
    rfl
  · rw [if_neg hnan, if_neg hnan, Option.map_some]
    exact congrArg some (eq_swap_of_compares (compares_int _ _) (compares_int _ _))

namespace Value

theorem compareSame_swap (exact : Bool) (a b : Value) :
    compareSame exact b a = (compareSame exact a b).map Ordering.swap := by
  cases a with
  | undefined => cases b <;> rfl
  | boolean p =>
    cases b with
    | boolean q => exact congrArg some (eq_swap_of_compares (compares_nat _ _) (compares_nat _ _))
    | _ => rfl
  | integer t m =>
    cases b with
    | integer u n =>
      exact congrArg some (eq_swap_of_compares (compares_int m.toInt n.toInt) (compares_int _ _))
    | _ => rfl
  | decimal d =>
    cases b with
    | decimal e =>
      exact congrArg some (eq_swap_of_compares (d.compares_compare e) (e.compares_compare d))
    | _ => rfl
  | double x =>
    cases b with
    | double y => exact Double.compare?_swap x y
    | _ => rfl
  | string s =>
    cases b with
    | string t =>
      have hchars (s t : List Char) : Text.compareChars t s = (Text.compareChars s t).swap :=
        eq_swap_of_compares (Text.compares_compareChars s t) (Text.compares_compareChars t s)
      cases exact with
      | true => exact congrArg some (hchars _ _)
      | false => exact congrArg some (hchars _ _)
    | _ => rfl
  | guid g =>
    cases b with
    | guid h =>
      exact congrArg some (eq_swap_of_compares (compares_nat g.number.toNat h.number.toNat)
        (compares_nat _ _))
    | _ => rfl
  | dateTime t =>
    cases b with
    | dateTime u =>
      exact congrArg some (eq_swap_of_compares (t.compares_compare u) (u.compares_compare t))
    | _ => rfl

/-! ## Values of any types -/

/-- What comparison gives in the other direction: the opposite order, or a failure again. -/
inductive Reversed : Except Error (Option Ordering) → Except Error (Option Ordering) → Prop where
  | ok (order : Option Ordering) : Reversed (.ok order) (.ok (order.map Ordering.swap))
  | error (e e' : Error) : Reversed (.error e) (.error e')

theorem reversed_compare (a b : Value) (exact : Bool) :
    Reversed (a.compare b exact) (b.compare a exact) := by
  rw [compare, compare, commonType?_comm b.valueType]
  by_cases hexact : exact = true ∧ a.valueType ≠ b.valueType
  · have hexact' : exact = true ∧ b.valueType ≠ a.valueType := ⟨hexact.1, hexact.2.symm⟩
    rw [if_pos hexact, if_pos hexact']
    exact .ok none
  · have hexact' : ¬ (exact = true ∧ b.valueType ≠ a.valueType) :=
      fun h => hexact ⟨h.1, h.2.symm⟩
    rw [if_neg hexact, if_neg hexact']
    cases (commonType? a.valueType b.valueType).filter (· ≠ .undefined) with
    | none => exact .error _ _
    | some t =>
      dsimp only
      -- either conversion may fail, and then both directions do
      cases a.convert t with
      | error e =>
        cases b.convert t with
        | error e' => exact .error _ _
        | ok y => exact .error _ _
      | ok x =>
        cases b.convert t with
        | error e' => exact .error _ _
        | ok y =>
          show Reversed (.ok (compareSame exact x y)) (.ok (compareSame exact y x))
          rw [compareSame_swap exact x y]
          exact .ok _

end Value

end RowFilter
