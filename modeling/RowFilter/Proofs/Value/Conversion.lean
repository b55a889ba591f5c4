import RowFilter.Proofs.Number.Digits
import RowFilter.Proofs.Text.Blank
import RowFilter.Proofs.Value.Promotion

/-!
Conversion to integer types. A number loses its fraction on the way and nothing else, and a text has
to be a numeral; what the type has no number for is not converted.
-/

namespace RowFilter

/-! ## Whole numbers -/

theorem IntType.fits_int128 {t : IntType} {n : ℤ} (h : t.Fits n) :
    -twoTo (128 - 1) ≤ n ∧ n < twoTo (128 - 1) := by
  have hall : ∀ t ∈ [int32, int64, uint32, uint64],
      -(twoTo (128 - 1) : ℤ) ≤ t.least ∧ t.greatest < (twoTo (128 - 1) : ℤ) := by decide
  have ht : -(twoTo (128 - 1) : ℤ) ≤ t.least ∧ t.greatest < (twoTo (128 - 1) : ℤ) :=
    hall t (by cases t <;> decide)
  exact ⟨ht.1.trans h.1, lt_of_le_of_lt h.2 ht.2⟩

theorem Word.ofInt?_of_fits {t : IntType} {n : ℤ} (h : t.Fits n) : ofInt? t n = some ⟨n, h⟩ :=
  dif_pos h

theorem Word.ofInt?_of_not_fits {t : IntType} {n : ℤ} (h : ¬ t.Fits n) : ofInt? t n = none :=
  dif_neg h

/-- The whole part of an exact number is what conversion goes on with. -/
theorem Number.truncate?_of_toRat? {x : Number} {q : ℚ} (h : x.toRat? = some q) :
    x.truncate? = some (wholePart q) := by
  cases x with
  | integer n =>
    obtain rfl := Option.some.inj h
    rw [wholePart_intCast]
    rfl
  | decimal d =>
    obtain rfl := Option.some.inj h
    rw [← d.truncate_eq]
    rfl
  | double x => cases h

namespace Value

/-! ## Conversion of numbers -/

theorem wholePart_of_valueType_eq {v : Value} {q : ℚ} {t : IntType} (hv : v.toRat? = some q)
    (htype : v.valueType = .integer t) :
    ∃ h : t.Fits (wholePart q), v = .integer t ⟨wholePart q, h⟩ := by
  cases v with
  | integer s n =>
    obtain rfl : s = t := ValueType.integer.inj htype
    obtain rfl := Option.some.inj hv
    rw [wholePart_intCast]
    exact ⟨n.fits, rfl⟩
  | boolean | decimal | double | undefined | string | guid | dateTime => cases htype

/-- An exact number is converted to an integer type just if its whole part is one of the type. -/
theorem convert_integer_eq {v : Value} {q : ℚ} (hv : v.toRat? = some q) (t : IntType) :
    v.convert (.integer t) = if h : t.Fits (wholePart q) then .ok (.integer t ⟨wholePart q, h⟩)
      else .error (.evaluation conversion (.cannotConvert v.valueType v.text (.integer t))) := by
  obtain ⟨x, hx, hq⟩ := Option.bind_eq_some_iff.mp hv
  have hvalue : x.toValue? (.integer t) = (Word.ofInt? t (wholePart q)).map (.integer t) := by
    rw [Number.toValue?, Number.truncate?_of_toRat? hq, Option.bind_some]
  by_cases hfits : t.Fits (wholePart q)
  · rw [dif_pos hfits]
    rw [Word.ofInt?_of_fits hfits] at hvalue
    exact convert_of_toValue? hx hvalue
  · rw [dif_neg hfits]
    rw [Word.ofInt?_of_not_fits hfits] at hvalue
    have hnone : v.number?.bind (·.toValue? (.integer t)) = none := by
      rw [hx]
      exact hvalue
    have htype : ¬ v.valueType = .integer t := fun h => hfits (wholePart_of_valueType_eq hv h).1
    unfold convert
    rw [if_neg htype]
    cases v with
    | boolean | integer | decimal | double =>
      dsimp only
      rw [hnone]
    | undefined | string | guid | dateTime => cases hx

/-! ## Conversion of texts -/

/-- A text is read without the blanks around it. -/
theorem convert_string {s : String} {t : ValueType} (ht : t ≠ .string) (ht' : t ≠ .undefined) :
    (string s).convert t =
      match read? (Text.trim s.toList) t with
      | some w => .ok w
      | none => .error (.evaluation conversion (.cannotParse s t)) := by
  have hne : ¬ (string s).valueType = t := fun h => ht h.symm
  unfold convert
  rw [if_neg hne]
  cases hread : read? (Text.trim s.toList) t with
  | none | some w =>
    cases t with
    | string => exact absurd rfl ht
    | undefined => exact absurd rfl ht'
    | boolean | integer | decimal | double | guid | dateTime =>
      dsimp only
      rw [hread]

theorem readSigned?_eq_some_iff {bits : ℕ} {s : List Char} {n : ℤ} :
    Integer.readSigned? bits s = some n ↔
      Integer.IsNumeral s n ∧ -twoTo (bits - 1) ≤ n ∧ n < twoTo (bits - 1) := by
  rw [Integer.readSigned?, Option.filter_eq_some_iff, Integer.readExponent?_eq_some_iff,
    Bool.and_eq_true, decide_eq_true_iff, decide_eq_true_iff]

/-- A text reads as an integer if it is the numeral of a number of the type. -/
theorem read?_integer_eq_some_iff {s : List Char} {t : IntType} {w : Value} :
    read? s (.integer t) = some w ↔
      ∃ (n : ℤ) (h : t.Fits n), Integer.IsNumeral s n ∧ w = .integer t ⟨n, h⟩ := by
  rw [read?, Option.bind_eq_some_iff]
  constructor
  · rintro ⟨n, hn, hw⟩
    obtain ⟨k, hk, rfl⟩ := Option.map_eq_some_iff.mp hw
    obtain rfl := Word.ofInt?_eq_some_iff.mp hk
    exact ⟨k.toInt, k.fits, (readSigned?_eq_some_iff.mp hn).1, rfl⟩
  · rintro ⟨n, h, hn, rfl⟩
    refine ⟨n, readSigned?_eq_some_iff.mpr ⟨hn, IntType.fits_int128 h⟩, ?_⟩
    rw [Word.ofInt?_of_fits h]
    rfl

/-- Conversion to an integer type is exact or fails. A Boolean, an integer or a decimal of any scale
is converted just if its number without the fraction lies in the range of the type, and to that
number. A text is converted just if it is a numeral of such a number with blanks around it. -/
theorem convert_integer_exact :
    (∀ (a : ExactValue) (t : IntType) (w : Value), a.value.convert (.integer t) = .ok w ↔
      ∃ h : t.Fits (wholePart a.number), w = .integer t ⟨wholePart a.number, h⟩) ∧
    ∀ (s : String) (t : IntType) (w : Value), (string s).convert (.integer t) = .ok w ↔
      ∃ (front body back : List Char) (n : ℤ) (h : t.Fits n),
        s.toList = front ++ (body ++ back) ∧ Text.AreBlanks front ∧ Text.AreBlanks back ∧
          Integer.IsNumeral body n ∧ w = .integer t ⟨n, h⟩ := by
  constructor
  · intro a t w
    rw [convert_integer_eq a.toRat?_eq]
    by_cases hfits : t.Fits (wholePart a.number)
    · rw [dif_pos hfits, Except.ok.injEq, exists_prop_of_true hfits, eq_comm]
    · rw [dif_neg hfits]
      constructor
      · exact nofun
      · rintro ⟨h, -⟩
        exact absurd h hfits
  · intro s t w
    have hread : (string s).convert (.integer t) = .ok w ↔
        read? (Text.trim s.toList) (.integer t) = some w := by
      have hstring : ValueType.integer t ≠ .string := nofun
      have hundefined : ValueType.integer t ≠ .undefined := nofun
      rw [convert_string hstring hundefined]
      cases read? (Text.trim s.toList) (.integer t) <;> simp
    rw [hread, read?_integer_eq_some_iff]
    constructor
    · rintro ⟨n, h, hn, hw⟩
      obtain ⟨front, back, hfront, hback, hs⟩ := Text.exists_eq_append_trim s.toList
      exact ⟨front, _, back, n, h, hs, hfront, hback, hn, hw⟩
    · rintro ⟨front, body, back, n, h, hs, hfront, hback, hn, hw⟩
      rw [hs, Text.trim_append hfront hback, Text.trim_of_forall_not_blank hn.forall_not_blank]
      exact ⟨n, h, hn, hw⟩

/-- A fraction is cut off toward zero, and nothing wraps around past the end of the range. -/
example : (decimal ⟨-9, 1⟩).convert .uint32 = .ok (.integer .uint32 0) ∧
    (decimal ⟨4294967296, 0⟩).convert .uint32 =
      .error (.evaluation conversion (.cannotConvert .decimal "4294967296" .uint32)) := by
  decide +kernel

end Value

end RowFilter
