import Mathlib.Data.List.Induction
import RowFilter.Proofs.Evaluation.TextCall
import RowFilter.Proofs.Value.Promotion

/-!
MAXOF and MINOF of Booleans, integers and decimals. Each value is compared with the best one so far
only, and yet the result is an extreme of all of them: two exact values are compared as the numbers
that they stand for, whatever their types. Undefined values do not take part.
-/

namespace RowFilter

/-- The outcome by which a value displaces the best one so far. -/
inductive Function.Seeks : Function → Ordering → Prop where
  | greatest : Seeks .maxOf .gt
  | least : Seeks .minOf .lt

namespace Value

/-- `v` is the first of the values whose number none of the other numbers surpasses: it is beyond
those before it, and none behind it is beyond it. -/
def IsFirstExtreme (wanted : Ordering) (values : List Value) (v : Value) : Prop :=
  ∃ before behind x, values = before ++ v :: behind ∧ v.toRat? = some x ∧
    (∀ w ∈ before, ∀ y, w.toRat? = some y → wanted.Compares x y) ∧
    ∀ w ∈ behind, ∀ y, w.toRat? = some y → ¬ wanted.Compares y x

/-! ## Numbers beyond one another -/

section

variable {wanted : Ordering} {x y z : ℚ}

/-- What is beyond one number is beyond each that does not surpass it. -/
theorem compares_of_not_compares (hwanted : wanted ≠ .eq) (h : wanted.Compares x y)
    (h' : ¬ wanted.Compares z y) : wanted.Compares x z := by
  cases wanted with
  | lt => exact lt_of_lt_of_le h (not_lt.mp h')
  | eq => exact absurd rfl hwanted
  | gt => exact lt_of_le_of_lt (not_lt.mp h') h

theorem eq_of_not_compares (hwanted : wanted ≠ .eq) (h : ¬ wanted.Compares x y)
    (h' : ¬ wanted.Compares y x) : x = y := by
  cases wanted with
  | lt => exact le_antisymm (not_lt.mp h') (not_lt.mp h)
  | eq => exact absurd rfl hwanted
  | gt => exact le_antisymm (not_lt.mp h) (not_lt.mp h')

theorem not_compares_self (hwanted : wanted ≠ .eq) : ¬ wanted.Compares x x := by
  cases wanted with
  | eq => exact absurd rfl hwanted
  | lt | gt => exact lt_irrefl x

theorem not_compares_of_compares (hwanted : wanted ≠ .eq) (h : wanted.Compares x y) :
    ¬ wanted.Compares y x := by
  cases wanted with
  | eq => exact absurd rfl hwanted
  | lt | gt => exact lt_asymm h

end

namespace IsFirstExtreme

variable {wanted : Ordering} {values : List Value} {v w : Value} {x y : ℚ}

theorem mem (h : IsFirstExtreme wanted values v) : v ∈ values := by
  obtain ⟨before, behind, -, rfl, -⟩ := h
  exact List.mem_append_right before List.mem_cons_self

theorem singleton (hv : v.toRat? = some x) : IsFirstExtreme wanted [v] v :=
  ⟨[], [], x, rfl, hv, fun _ hw => absurd hw List.not_mem_nil,
    fun _ hw => absurd hw List.not_mem_nil⟩

/-- No number surpasses that of the extreme. -/
theorem not_compares (hwanted : wanted ≠ .eq) (h : IsFirstExtreme wanted values v)
    (hv : v.toRat? = some x) (hmem : w ∈ values) (hw : w.toRat? = some y) :
    ¬ wanted.Compares y x := by
  obtain ⟨before, behind, x', rfl, hx', hbefore, hbehind⟩ := h
  obtain rfl := Option.some.inj (hx'.symm.trans hv)
  rcases List.mem_append.mp hmem with hmem | hmem
  · exact not_compares_of_compares hwanted (hbefore w hmem y hw)
  · rcases List.mem_cons.mp hmem with rfl | hmem
    · obtain rfl := Option.some.inj (hx'.symm.trans hw)
      exact not_compares_self hwanted
    · exact hbehind w hmem y hw

/-- A value beyond the extreme takes its place. -/
theorem of_compares (hwanted : wanted ≠ .eq) (h : IsFirstExtreme wanted values v)
    (hv : v.toRat? = some x) (hw : w.toRat? = some y) (hbeyond : wanted.Compares y x) :
    IsFirstExtreme wanted (values ++ [w]) w := by
  refine ⟨values, [], y, rfl, hw, fun u hu z hz => ?_, fun u hu => absurd hu List.not_mem_nil⟩
  exact compares_of_not_compares hwanted hbeyond (h.not_compares hwanted hv hu hz)

/-- Any other value leaves it where it is. -/
theorem of_not_compares (h : IsFirstExtreme wanted values v) (hv : v.toRat? = some x)
    (hw : w.toRat? = some y) (hbeyond : ¬ wanted.Compares y x) :
    IsFirstExtreme wanted (values ++ [w]) v := by
  obtain ⟨before, behind, x', rfl, hx', hbefore, hbehind⟩ := h
  obtain rfl := Option.some.inj (hx'.symm.trans hv)
  refine ⟨before, behind ++ [w], x', by rw [List.append_assoc, List.cons_append], hx', hbefore,
    fun u hu z hz => ?_⟩
  rcases List.mem_append.mp hu with hu | hu
  · exact hbehind u hu z hz
  · obtain rfl := List.mem_singleton.mp hu
    obtain rfl := Option.some.inj (hw.symm.trans hz)
    exact hbeyond

/-- Values without a number make no difference. -/
theorem of_filter {p : Value → Bool} (hp : ∀ w, p w = false → w.toRat? = none)
    (h : IsFirstExtreme wanted (values.filter p) v) : IsFirstExtreme wanted values v := by
  obtain ⟨before, behind, x, hvalues, hx, hbefore, hbehind⟩ := h
  obtain ⟨before', rest, rfl, rfl, hrest⟩ := List.filter_eq_append_iff.mp hvalues
  obtain ⟨between, behind', rfl, hbetween, -, rfl⟩ := List.filter_eq_cons_iff.mp hrest
  -- what has a number was not left out
  have hkept {w : Value} {y : ℚ} (hw : w.toRat? = some y) : p w = true := by
    by_contra hfalse
    rw [hp w (Bool.eq_false_iff.mpr hfalse)] at hw
    cases hw
  refine ⟨before' ++ between, behind', x, (List.append_assoc _ _ _).symm, hx, ?_, ?_⟩
  · intro w hmem y hw
    rcases List.mem_append.mp hmem with hmem | hmem
    · exact hbefore w (List.mem_filter.mpr ⟨hmem, hkept hw⟩) y hw
    · exact absurd (hkept hw) (hbetween w hmem)
  · intro w hmem y hw
    exact hbehind w (List.mem_filter.mpr ⟨hmem, hkept hw⟩) y hw

/-- The extremes of the same values in different orders stand for one number. -/
theorem toRat?_eq_of_perm {values' : List Value} (hwanted : wanted ≠ .eq)
    (hperm : values'.Perm values) (h : IsFirstExtreme wanted values v)
    (h' : IsFirstExtreme wanted values' w) : w.toRat? = v.toRat? := by
  have hv := h
  have hw := h'
  obtain ⟨-, -, x, -, hx, -⟩ := hv
  obtain ⟨-, -, y, -, hy, -⟩ := hw
  rw [hx, hy, eq_of_not_compares hwanted (h.not_compares hwanted hx (hperm.mem_iff.mp h'.mem) hy)
    (h'.not_compares hwanted hy (hperm.mem_iff.mpr h.mem) hx)]

end IsFirstExtreme

end Value

/-! ## The best so far -/

namespace Call

variable {wanted : Ordering}

/-- An exact value is preferred to another one if its number is beyond that of the other. -/
theorem prefer_of_toRat? (wanted : Ordering) {current value : Value} {x y : ℚ}
    (hx : current.toRat? = some x) (hy : value.toRat? = some y) :
    wanted.Compares y x ∧ prefer wanted current value = .ok value ∨
      ¬ wanted.Compares y x ∧ prefer wanted current value = .ok current := by
  obtain ⟨order, hcompare, hcompares⟩ := Value.exists_compare_of_toRat? hy hx
  rw [prefer, hcompare, ok_bind]
  by_cases horder : order = wanted
  · left
    rw [horder] at hcompares ⊢
    exact ⟨hcompares, by rw [if_pos (beq_self_eq_true _), pure_eq_ok]⟩
  · right
    have hne : ¬ (some order == some wanted) = true := by
      rwa [beq_iff_eq, Option.some.injEq]
    exact ⟨fun h => horder (hcompares.inj h), by rw [if_neg hne, pure_eq_ok]⟩

/-- Going through exact values, the first extreme of those seen is kept. -/
theorem foldlM_prefer (hwanted : wanted ≠ .eq) {v : Value} {rest : List Value}
    (hexact : ∀ w ∈ v :: rest, w.valueType.isExact = true) :
    ∃ best, rest.foldlM (prefer wanted) v = .ok best ∧
      Value.IsFirstExtreme wanted (v :: rest) best := by
  have hnumber {w : Value} (hw : w ∈ v :: rest) : ∃ x, w.toRat? = some x :=
    Option.isSome_iff_exists.mp (Value.isSome_toRat? (hexact w hw))
  clear hexact
  induction rest using List.reverseRecOn with
  | nil =>
    obtain ⟨x, hx⟩ := hnumber List.mem_cons_self
    exact ⟨v, rfl, .singleton hx⟩
  | append_singleton front w ih =>
    rw [← List.cons_append] at hnumber ⊢
    obtain ⟨best, hfold, hbest⟩ := ih fun hu => hnumber (List.mem_append_left _ hu)
    obtain ⟨x, hx⟩ := hnumber (List.mem_append_left _ hbest.mem)
    obtain ⟨y, hy⟩ := hnumber (List.mem_append_right _ List.mem_cons_self)
    -- the last value is compared with the extreme of those before it
    rw [List.foldlM_append, hfold, ok_bind, List.foldlM_cons]
    rcases prefer_of_toRat? wanted hx hy with ⟨hbeyond, hprefer⟩ | ⟨hbeyond, hprefer⟩
    · exact ⟨w, by rw [hprefer]; rfl, hbest.of_compares hwanted hx hy hbeyond⟩
    · exact ⟨best, by rw [hprefer]; rfl, hbest.of_not_compares hx hy hbeyond⟩

theorem toRat?_of_isUndefined {w : Value} (h : (!w.isUndefined) = false) : w.toRat? = none := by
  cases w with
  | undefined => rfl
  | _ => cases h

/-- The extreme of exact and undefined values: none if all are undefined. -/
theorem exists_extreme (hwanted : wanted ≠ .eq) {values : List Value}
    (hvalues : ∀ v ∈ values, v = .undefined ∨ v.valueType.isExact = true) :
    ∃ v, extreme wanted values = .ok v ∧ (v = .undefined ↔ ∀ w ∈ values, w = .undefined) ∧
      (v ≠ .undefined → Value.IsFirstExtreme wanted values v) := by
  have hfilter {w : Value} (hw : w ∈ values.filter (!·.isUndefined)) :
      w ∈ values ∧ w ≠ .undefined := by
    obtain ⟨hmem, hdefined⟩ := List.mem_filter.mp hw
    refine ⟨hmem, ?_⟩
    rintro rfl
    cases hdefined
  rw [extreme]
  split
  · next hnil =>
    refine ⟨.undefined, rfl, iff_of_true rfl fun w hw => ?_, fun h => absurd rfl h⟩
    have hundefined := List.filter_eq_nil_iff.mp hnil w hw
    cases w with
    | undefined => rfl
    | _ => exact absurd rfl hundefined
  · next v rest hcons =>
    rw [hcons] at hfilter
    have hexact (w : Value) (hw : w ∈ v :: rest) : w.valueType.isExact = true :=
      (hvalues w (hfilter hw).1).resolve_left (hfilter hw).2
    obtain ⟨best, hfold, hbest⟩ := foldlM_prefer hwanted hexact
    have hdefined := hfilter hbest.mem
    refine ⟨best, hfold, iff_of_false hdefined.2 fun h => hdefined.2 (h best hdefined.1),
      fun _ => ?_⟩
    rw [← hcons] at hbest
    exact hbest.of_filter fun w => toRat?_of_isUndefined

end Call

/-! ## Calls -/

namespace Function

variable {f : Function} {wanted : Ordering}

theorem Seeks.ne_eq (h : f.Seeks wanted) : wanted ≠ .eq := by
  cases h <;> decide

theorem Seeks.returns_iff (h : f.Seeks wanted) {values : List Value}
    (hcount : 2 ≤ values.length) (v : Value) :
    f.Returns values v ↔ Call.extreme wanted values = .ok v := by
  have harity : f.arity.accepts values.length = true := by
    cases h <;> exact Bool.and_eq_true_iff.mpr ⟨decide_eq_true hcount, rfl⟩
  have hstrict : f.isStrict = true := by cases h <;> rfl
  have hvalue (clock : Clock) : (Call.mk f values).value clock = Call.extreme wanted values := by
    cases h <;> rfl
  exact returns_iff_of_value hstrict harity hvalue

/-- A call of MAXOF or MINOF with any mixture of undefined values, Booleans, integers and decimals
never fails. It returns an undefined value if there is no other, and else, as it is, the first of
those whose number is the greatest or the least. In another order the same values give a value of
the same number. -/
theorem extreme_of_exact_values (hf : f.Seeks wanted) {values : List Value}
    (hcount : 2 ≤ values.length)
    (hvalues : ∀ v ∈ values, v = .undefined ∨ v.valueType.isExact = true) :
    ∃ v, f.Returns values v ∧ (v = .undefined ↔ ∀ w ∈ values, w = .undefined) ∧
      (v ≠ .undefined → Value.IsFirstExtreme wanted values v) ∧
      ∀ values', values'.Perm values →
        ∃ v', f.Returns values' v' ∧ (v' = .undefined ↔ v = .undefined) ∧
          v'.toRat? = v.toRat? := by
  obtain ⟨v, hv, hnone, hextreme⟩ := Call.exists_extreme hf.ne_eq hvalues
  refine ⟨v, (hf.returns_iff hcount v).mpr hv, hnone, hextreme, fun values' hperm => ?_⟩
  have hcount' : 2 ≤ values'.length := hperm.length_eq ▸ hcount
  have hvalues' (w : Value) (hw : w ∈ values') : w = .undefined ∨ w.valueType.isExact = true :=
    hvalues w (hperm.mem_iff.mp hw)
  obtain ⟨v', hv', hnone', hextreme'⟩ := Call.exists_extreme hf.ne_eq hvalues'
  have hboth : v' = .undefined ↔ v = .undefined := by
    rw [hnone, hnone']
    exact forall_congr' fun w => by rw [hperm.mem_iff]
  refine ⟨v', (hf.returns_iff hcount' v').mpr hv', hboth, ?_⟩
  by_cases hundefined : v = .undefined
  · rw [hundefined, hboth.mpr hundefined]
  · exact (hextreme hundefined).toRat?_eq_of_perm hf.ne_eq hperm
      (hextreme' fun h => hundefined (hboth.mp h))

/-- An undefined value, a Boolean, the greatest UInt64, the same number as a decimal and a number
that is no UInt64. -/
def mixedValues : List Value :=
  [.undefined, .boolean true, .integer .uint64 (.wrap .uint64 (2 ^ 64 - 1)),
    .decimal ⟨2 ^ 64 - 1, 0⟩, .integer .int64 (.wrap .int64 (-1))]

/-- The mixed values have an extreme on either side, the first of two equal ones. -/
theorem extreme_of_mixed_values :
    2 ≤ mixedValues.length ∧ (∀ v ∈ mixedValues, v = .undefined ∨ v.valueType.isExact = true) ∧
      ∃ v, maxOf.Returns mixedValues v ∧ (v = .undefined ↔ ∀ w ∈ mixedValues, w = .undefined) ∧
        (v ≠ .undefined → Value.IsFirstExtreme .gt mixedValues v) ∧
        ∀ values', values'.Perm mixedValues →
          ∃ v', maxOf.Returns values' v' ∧ (v' = .undefined ↔ v = .undefined) ∧
            v'.toRat? = v.toRat? := by
  have hcount : 2 ≤ mixedValues.length := by decide
  have hvalues : ∀ v ∈ mixedValues, v = .undefined ∨ v.valueType.isExact = true := by
    decide +kernel
  exact ⟨hcount, hvalues, extreme_of_exact_values .greatest hcount hvalues⟩

example : Call.extreme .gt mixedValues = .ok (.integer .uint64 (.wrap .uint64 (2 ^ 64 - 1))) := by
  decide +kernel

end Function

end RowFilter
