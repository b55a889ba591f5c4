import Mathlib.Data.List.Lex
import Mathlib.Data.Prod.Lex
import RowFilter.Proofs.Number.Order
import RowFilter.Selection.Order

/-!
What cells are ordered by. Every value has a key in one linear order: undefined values come first,
then NaNs, then all others by the number they stand for or by the codes they are made of. Cells of
one column are compared as their keys are.
-/

namespace RowFilter

/-- A group, then a number, then a sequence of codes; what comes first counts first. -/
abbrev SortKey := ℕ ×ₗ WithBot (WithTop ℚ) ×ₗ List ℤ

namespace SortKey

/-- The key of values that are alike in a group. -/
def ofGroup (group : ℕ) : SortKey := toLex (group, toLex (0, []))

/-- The key of a value that stands for a number. -/
def ofNumber (x : WithBot (WithTop ℚ)) : SortKey := toLex (2, toLex (x, []))

/-- The key of a value that is made of codes. -/
def ofCodes (codes : List ℤ) : SortKey := toLex (2, toLex (0, codes))

end SortKey

namespace Text

/-- The code points of a text. -/
def codes (s : List Char) : List ℤ := s.map fun c => (c.toNat : ℤ)

end Text

/-- What a value is ordered by. Texts are ordered by the code points of their characters, taken in
lowercase unless the order is exact, and moments by year, month, day, second and nanosecond. -/
def Value.sortKey (exact : Bool) : Value → SortKey
  | undefined => .ofGroup 0
  | boolean b => .ofNumber (if b then 1 else 0)
  | integer _ n => .ofNumber ((n.toInt : ℚ) : WithTop ℚ)
  | decimal d => .ofNumber (d.value : WithTop ℚ)
  | double x =>
    match Double.number? x with
    | none => .ofGroup 1
    | some number => .ofNumber number
  | string s => .ofCodes (Text.codes (if exact then s.toList else Text.foldCase s.toList))
  | guid g => .ofNumber ((g.number.toNat : ℚ) : WithTop ℚ)
  | dateTime t => .ofCodes [t.date.year, t.date.month, t.date.day, t.second, t.nano]

/-! ## Orders of keys -/

theorem compares_map {α β : Type} [Preorder α] [Preorder β] {f : α → β} (hf : StrictMono f)
    {o : Ordering} {a b : α} (h : o.Compares a b) : o.Compares (f a) (f b) := by
  cases o with
  | lt => exact hf h
  | eq => exact congrArg f h
  | gt => exact hf h

theorem compares_cons {α : Type} [LinearOrder α] {o p : Ordering} {a b : α} {s t : List α}
    (ho : o.Compares a b) (hp : p.Compares s t) : (o.then p).Compares (a :: s) (b :: t) := by
  cases o with
  | lt => exact List.cons_lt_cons_iff.mpr (.inl ho)
  | gt => exact List.cons_lt_cons_iff.mpr (.inl ho)
  | eq =>
    obtain rfl : a = b := ho
    cases p with
    | lt => exact List.cons_lt_cons_iff.mpr (.inr ⟨rfl, hp⟩)
    | gt => exact List.cons_lt_cons_iff.mpr (.inr ⟨rfl, hp⟩)
    | eq => exact congrArg (a :: ·) hp

namespace SortKey

theorem strictMono_ofNumber : StrictMono ofNumber := fun _ _ h =>
  Prod.Lex.toLex_lt_toLex.mpr (.inr ⟨rfl, Prod.Lex.toLex_lt_toLex.mpr (.inl h)⟩)

theorem strictMono_ofCodes : StrictMono ofCodes := fun _ _ h =>
  Prod.Lex.toLex_lt_toLex.mpr (.inr ⟨rfl, Prod.Lex.toLex_lt_toLex.mpr (.inr ⟨rfl, h⟩)⟩)

theorem strictMono_ofRational : StrictMono fun x : ℚ => ofNumber (x : WithTop ℚ) :=
  strictMono_ofNumber.comp (WithBot.coe_strictMono.comp WithTop.coe_strictMono)

end SortKey

/-- Texts are compared as the sequences of their code points are. -/
theorem Text.compares_compareChars (s t : List Char) :
    (compareChars s t).Compares (codes s) (codes t) := by
  induction s generalizing t with
  | nil =>
    cases t with
    | nil => rfl
    | cons b t => exact List.nil_lt_cons _ _
  | cons a s ih =>
    cases t with
    | nil => exact List.nil_lt_cons _ _
    | cons b t =>
      have hcode := compares_map (Nat.strictMono_cast (α := ℤ)) (compares_nat a.toNat b.toNat)
      exact compares_cons hcode (ih t)

/-- Moments are compared year by year, then within the year, and so on. -/
theorem Calendar.DateTime.compares_compare (s t : DateTime) :
    (s.compare t).Compares [s.date.year, (s.date.month : ℤ), s.date.day, s.second, s.nano]
      [t.date.year, (t.date.month : ℤ), t.date.day, t.second, t.nano] := by
  have hfield (m n : ℕ) : (Ord.compare m n).Compares (m : ℤ) (n : ℤ) :=
    compares_map Nat.strictMono_cast (compares_nat m n)
  -- The comparison of the last fields has none behind it; `Ordering.eq` stands for it, as the empty
  -- rest does in the lists.
  have hnano : ((Ord.compare s.nano t.nano).then .eq).Compares [(s.nano : ℤ)] [(t.nano : ℤ)] :=
    compares_cons (hfield _ _) rfl
  rw [DateTime.compare, Date.compare, Ordering.then_assoc, Ordering.then_assoc]
  rw [Ordering.then_eq] at hnano
  exact compares_cons (compares_int _ _) (compares_cons (hfield _ _) (compares_cons (hfield _ _)
    (compares_cons (hfield _ _) hnano)))

/-! ## Values of one type -/

namespace Value

/-- Undefined, or of a type. -/
def IsOf (type : ValueType) (v : Value) : Prop := v = .undefined ∨ v.valueType = type

theorem convert_self (v : Value) : v.convert v.valueType = .ok v := by
  unfold convert
  exact if_pos rfl

/-- Values of the same type are compared as they are. -/
theorem compare_of_valueType_eq {a b : Value} (exact : Bool) (h : a.valueType = b.valueType)
    (hdefined : b.valueType ≠ .undefined) :
    a.compare b exact = .ok (compareSame exact a b) := by
  have hcommon : (commonType? a.valueType b.valueType).filter (· ≠ .undefined) =
      some b.valueType := by
    rw [commonType?, if_pos h, h, Option.filter_some, if_pos (by simpa using hdefined)]
  have ha : a.convert b.valueType = .ok a := by
    rw [← h]
    exact a.convert_self
  rw [compare, if_neg (fun hne => hne.2 h), hcommon]
  dsimp only
  rw [ha, b.convert_self]
  rfl

theorem isNaN_of_sortGroup {x : Float} (h : (double x).sortGroup = 2) :
    Double.isNaN x = false := by
  cases hx : Double.isNaN x with
  | false => rfl
  | true =>
    rw [sortGroup, if_pos hx] at h
    cases h

/-- Values of one type that are neither undefined nor a NaN are ordered as their keys are. -/
theorem exists_compareSame {a b : Value} (exact : Bool) (htype : a.valueType = b.valueType)
    (ha : a.sortGroup = 2) (hb : b.sortGroup = 2) :
    ∃ order, compareSame exact a b = some order ∧
      order.Compares (a.sortKey exact) (b.sortKey exact) := by
  cases a with
  | undefined => cases ha
  | boolean p =>
    cases b with
    | boolean q =>
      refine ⟨_, rfl, compares_map SortKey.strictMono_ofNumber ?_⟩
      cases p <;> cases q
      · rfl
      · exact zero_lt_one
      · exact zero_lt_one
      · rfl
    | _ => cases htype
  | integer t m =>
    cases b with
    | integer u n =>
      exact ⟨_, rfl, compares_map (SortKey.strictMono_ofRational.comp Int.cast_strictMono)
        (compares_int m.toInt n.toInt)⟩
    | _ => cases htype
  | decimal d =>
    cases b with
    | decimal e =>
      exact ⟨_, rfl, compares_map SortKey.strictMono_ofRational (d.compares_compare e)⟩
    | _ => cases htype
  | double x =>
    cases b with
    | double y =>
      have hx := isNaN_of_sortGroup ha
      have hy := isNaN_of_sortGroup hb
      -- The rank takes both zeros to zero, so that they tie as the numbers do.
      refine ⟨Ord.compare (Double.rank x) (Double.rank y), ?_, ?_⟩
      · rw [compareSame, Double.compare?, hx, hy]
        rfl
      · rw [sortKey, sortKey, Double.number?_of_not_isNaN hx, Double.number?_of_not_isNaN hy]
        exact compares_map SortKey.strictMono_ofNumber (Double.compares_rank hx hy)
    | _ => cases htype
  | string s =>
    cases b with
    | string t =>
      refine ⟨_, rfl, compares_map SortKey.strictMono_ofCodes ?_⟩
      cases exact with
      | true => exact Text.compares_compareChars _ _
      | false => exact Text.compares_compareChars _ _
    | _ => cases htype
  | guid g =>
    cases b with
    | guid h =>
      exact ⟨_, rfl, compares_map (SortKey.strictMono_ofRational.comp Nat.strictMono_cast)
        (compares_nat g.number.toNat h.number.toNat)⟩
    | _ => cases htype
  | dateTime s =>
    cases b with
    | dateTime t =>
      exact ⟨_, rfl, compares_map SortKey.strictMono_ofCodes (s.compares_compare t)⟩
    | _ => cases htype

/-- The group of a value comes first in its key. -/
theorem sortKey_group (exact : Bool) (v : Value) : (ofLex (v.sortKey exact)).1 = v.sortGroup := by
  cases v with
  | double x =>
    rw [sortKey, sortGroup]
    cases hx : Double.isNaN x with
    | true =>
      rw [Double.number?_of_isNaN hx]
      rfl
    | false =>
      rw [Double.number?_of_not_isNaN hx]
      rfl
  | undefined | boolean | integer | decimal | string | guid | dateTime => rfl

theorem sortKey_lt_of_sortGroup_lt {a b : Value} (exact : Bool) (h : a.sortGroup < b.sortGroup) :
    a.sortKey exact < b.sortKey exact := by
  rw [Prod.Lex.lt_iff, sortKey_group, sortKey_group]
  exact .inl h

/-- Undefined values are alike, and so are all NaNs. -/
theorem sortKey_of_sortGroup_ne {v : Value} (exact : Bool) (h : v.sortGroup ≠ 2) :
    v.sortKey exact = .ofGroup v.sortGroup := by
  cases v with
  | undefined => rfl
  | double x =>
    cases hx : Double.isNaN x with
    | true =>
      rw [sortKey, sortGroup, Double.number?_of_isNaN hx, if_pos hx]
    | false =>
      rw [sortGroup, if_neg (Bool.eq_false_iff.mp hx)] at h
      exact absurd rfl h
  -- All other values are in the last group.
  | boolean | integer | decimal | string | guid | dateTime => exact absurd rfl h

theorem IsOf.valueType_eq {type : ValueType} {v : Value} (h : v.IsOf type)
    (hgroup : v.sortGroup = 2) : v.valueType = type := by
  rcases h with rfl | h
  · cases hgroup
  · exact h

/-- The order of cells of one type is that of their keys. -/
theorem compares_compareKeys {type : ValueType} {a b : Value} (exact : Bool) (ha : a.IsOf type)
    (hb : b.IsOf type) : (compareKeys exact a b).Compares (a.sortKey exact) (b.sortKey exact) := by
  rw [compareKeys]
  rcases lt_trichotomy a.sortGroup b.sortGroup with h | h | h
  · rw [Nat.compare_eq_lt.mpr h]
    exact sortKey_lt_of_sortGroup_lt exact h
  · rw [Nat.compare_eq_eq.mpr h]
    dsimp only
    -- In the last group the values themselves decide; within the others all of them are alike.
    split
    · next hgroup =>
      have htype := (ha.valueType_eq hgroup).trans (hb.valueType_eq (h ▸ hgroup)).symm
      have hdefined : b.valueType ≠ .undefined := by
        intro hundefined
        cases b with
        | undefined => cases h.symm.trans hgroup
        | _ => cases hundefined
      obtain ⟨order, hsame, hcompares⟩ := exists_compareSame exact htype hgroup (h ▸ hgroup)
      rw [compareOrdinary, compare_of_valueType_eq exact htype hdefined, hsame]
      exact hcompares
    · next hgroup =>
      show a.sortKey exact = b.sortKey exact
      rw [sortKey_of_sortGroup_ne exact hgroup, sortKey_of_sortGroup_ne exact (h ▸ hgroup), h]
  · rw [Nat.compare_eq_gt.mpr h]
    exact sortKey_lt_of_sortGroup_lt exact h

end Value

end RowFilter
