import RowFilter.Proofs.Value.Conversion
import RowFilter.Proofs.Value.Reversal

/-!
The order of cells of any types. It is reversed when the cells change places. It is transitive in
exact comparison, and in ordinary comparison as long as no text is read as a value of another type
and no number is rounded to a double; where that happens, three cells can contradict each other.
-/

namespace RowFilter

/-! ## Order by type -/

namespace ValueType

/-- All types, in the order in which values are sorted that cannot be compared. -/
def allTypes : List ValueType :=
  [boolean, int32, int64, uint32, uint64, decimal, double, string, guid, dateTime, undefined]

theorem getElem?_position (t : ValueType) : allTypes[t.position]? = some t := by
  cases t with
  | integer t => cases t <;> rfl
  | _ => rfl

theorem eq_of_position_eq {s t : ValueType} (h : s.position = t.position) : s = t := by
  have hget := getElem?_position s
  rw [h, getElem?_position t] at hget
  exact (Option.some.inj hget).symm

/-- The types that can be promoted come first. -/
theorem isSome_rank?_iff (t : ValueType) : t.rank?.isSome = true ↔ t.position < 7 := by
  cases t with
  | integer t => cases t <;> decide
  | _ => decide

/-- The place of a type among all types. In ordinary comparison the types that can be promoted
share one place. -/
def family (exact : Bool) (t : ValueType) : ℕ :=
  if exact = false ∧ t.rank?.isSome = true then 0 else t.position

theorem family_lt {exact : Bool} {s t : ValueType} (h : s.position < t.position)
    (hunlike : exact = true ∨ s.promote? t = none) : s.family exact < t.family exact := by
  have ht : t.family exact = t.position := by
    apply if_neg
    rintro ⟨hordinary, ht⟩
    -- whatever comes before a type that can be promoted can be promoted too
    have hs : s.rank?.isSome = true := by
      rw [isSome_rank?_iff] at ht ⊢
      omega
    obtain ⟨m, hm⟩ := Option.isSome_iff_exists.mp hs
    obtain ⟨n, hn⟩ := Option.isSome_iff_exists.mp ht
    have hnone := hunlike.resolve_left (Bool.eq_false_iff.mp hordinary)
    rw [promote?, hm, hn] at hnone
    cases hnone
  rw [ht, family]
  split
  · omega
  · exact h

theorem isExact_of_rank? {t : ValueType} (h : t.rank?.isSome = true) (hdouble : t ≠ .double) :
    t.isExact = true := by
  cases t with
  | boolean | integer | decimal => rfl
  | double => exact absurd rfl hdouble
  | string | guid | dateTime | undefined => cases h

/-- Of types that can be promoted all but that of doubles are exact. -/
theorem isExact_of_promote? {s t u : ValueType} (h : s.promote? t = some u)
    (hdouble : ¬ (s = .double ∨ t = .double)) : s.isExact = true ∧ t.isExact = true := by
  have hranked := isSome_rank?_of_promote? h
  exact ⟨isExact_of_rank? hranked.1 fun hs => hdouble (.inl hs),
    isExact_of_rank? hranked.2 fun ht => hdouble (.inr ht)⟩

/-- Beside a double every number is promoted to one. -/
theorem eq_double_of_promote? {s t u : ValueType} (h : s.promote? t = some u)
    (hdouble : s = .double ∨ t = .double) : u = .double := by
  have hall : ∀ s ∈ rankedTypes, s.promote? .double = some .double := by decide
  have hranked := isSome_rank?_of_promote? h
  rcases hdouble with rfl | rfl
  · rw [promote?_comm, hall t (mem_rankedTypes hranked.2)] at h
    exact (Option.some.inj h).symm
  · rw [hall s (mem_rankedTypes hranked.1)] at h
    exact (Option.some.inj h).symm

end ValueType

namespace Value

/-! ## Reversal -/

theorem compareOrdinary_swap (exact : Bool) (a b : Value) :
    compareOrdinary exact b a = (compareOrdinary exact a b).swap := by
  have hposition : Ord.compare b.valueType.position a.valueType.position =
      (Ord.compare a.valueType.position b.valueType.position).swap :=
    eq_swap_of_compares (compares_nat _ _) (compares_nat _ _)
  have hreversed := reversed_compare a b exact
  rw [compareOrdinary, compareOrdinary]
  generalize a.compare b exact = forward at hreversed ⊢
  generalize b.compare a exact = backward at hreversed ⊢
  cases hreversed with
  | ok order =>
    cases order with
    | none => exact hposition
    | some order => rfl
  | error e e' => exact hposition

/-- Cells that change places are in the opposite order. -/
theorem compareKeys_swap (exact : Bool) (a b : Value) :
    compareKeys exact b a = (compareKeys exact a b).swap := by
  rw [compareKeys, compareKeys]
  rcases lt_trichotomy a.sortGroup b.sortGroup with h | h | h
  · rw [Nat.compare_eq_lt.mpr h, Nat.compare_eq_gt.mpr h]
    rfl
  · rw [Nat.compare_eq_eq.mpr h, Nat.compare_eq_eq.mpr h.symm, h]
    dsimp only
    split
    · exact compareOrdinary_swap exact a b
    · rfl
  · rw [Nat.compare_eq_gt.mpr h, Nat.compare_eq_lt.mpr h]
    rfl

/-! ## Keys of values of any types -/

/-- Undefined values and NaNs come first, then all others family by family. -/
def band (exact : Bool) (v : Value) : ℕ :=
  if v.sortGroup = 2 then v.valueType.family exact + 1 else 0

/-- What cells of any types are ordered by, unless one is read or rounded. -/
def bandedKey (exact : Bool) (v : Value) : ℕ ×ₗ SortKey :=
  toLex (v.band exact, v.sortKey exact)

theorem compares_bandedKey_of_band_eq {exact : Bool} {a b : Value} {order : Ordering}
    (hband : a.band exact = b.band exact)
    (h : order.Compares (a.sortKey exact) (b.sortKey exact)) :
    order.Compares (a.bandedKey exact) (b.bandedKey exact) := by
  have hmono : StrictMono fun key : SortKey => toLex (b.band exact, key) := by
    intro x y hxy
    exact Prod.Lex.toLex_lt_toLex.mpr (.inr ⟨rfl, hxy⟩)
  rw [bandedKey, bandedKey, hband]
  exact compares_map hmono h

theorem bandedKey_lt_of_band_lt {exact : Bool} {a b : Value} (h : a.band exact < b.band exact) :
    a.bandedKey exact < b.bandedKey exact :=
  Prod.Lex.toLex_lt_toLex.mpr (.inl h)

/-- Values that cannot be compared are ordered by their families. -/
theorem compares_position {exact : Bool} {a b : Value} (ha : a.sortGroup = 2)
    (hb : b.sortGroup = 2) (hne : a.valueType ≠ b.valueType)
    (hunlike : exact = true ∨ a.valueType.promote? b.valueType = none) :
    (Ord.compare a.valueType.position b.valueType.position).Compares (a.bandedKey exact)
      (b.bandedKey exact) := by
  have hlt {v w : Value} (hv : v.sortGroup = 2) (hw : w.sortGroup = 2)
      (h : v.valueType.family exact < w.valueType.family exact) :
      v.bandedKey exact < w.bandedKey exact := by
    apply bandedKey_lt_of_band_lt
    rw [band, band, if_pos hv, if_pos hw]
    omega
  cases h : Ord.compare a.valueType.position b.valueType.position with
  | lt => exact hlt ha hb (ValueType.family_lt (Nat.compare_eq_lt.mp h) hunlike)
  | eq => exact absurd (ValueType.eq_of_position_eq (Nat.compare_eq_eq.mp h)) hne
  | gt =>
    rw [ValueType.promote?_comm] at hunlike
    exact hlt hb ha (ValueType.family_lt (Nat.compare_eq_gt.mp h) hunlike)

/-! ## Values that are compared as they are -/

/-- Beside `w` the value `v` is taken as it is: a text does not read as a value of the type of `w`,
and a number beside a double is one that a double has. Undefined values and NaNs come first whatever
they are compared with. -/
structure StaysBeside (v w : Value) : Prop where
  text : ∀ s, v = .string s → w.sortGroup = 2 → w.valueType ≠ .string →
    read? (Text.trim s.toList) w.valueType = none
  number : w.valueType = .double → w.sortGroup = 2 → ∀ (q : ℚ) (x : Float), v.toRat? = some q →
    v.toDouble? = some x → Double.number? x = some ↑(q : WithTop ℚ)

theorem staysBeside_string {s : String} {w : Value}
    (hunread : w.valueType ≠ .string → read? (Text.trim s.toList) w.valueType = none) :
    (string s).StaysBeside w where
  text s' hs _ hw := by
    obtain rfl : s = s' := Value.string.inj hs
    exact hunread hw
  number _ _ _ _ h := by cases h

theorem staysBeside_double (x : Float) (w : Value) : (double x).StaysBeside w where
  text _ h := by cases h
  number _ _ _ _ h := by cases h

/-- An integer that is a double stays beside every value. -/
theorem staysBeside_integer {t : IntType} {n : Word t} (w : Value)
    (h : Double.number? (Float.ofInt n.toInt) = some ↑((n.toInt : ℚ) : WithTop ℚ)) :
    (integer t n).StaysBeside w where
  text _ h := by cases h
  number _ _ q x hq hx := by
    obtain rfl : (n.toInt : ℚ) = q := Option.some.inj hq
    obtain rfl : Float.ofInt n.toInt = x := Option.some.inj hx
    exact h

/-- A text that does not read as a value of another type is not converted to that type. -/
theorem convert_of_read?_eq_none {s : String} {t : ValueType} (ht : t ≠ .string)
    (hunread : read? (Text.trim s.toList) t = none) :
    (string s).convert t = .error (.evaluation conversion (.cannotParse s t)) := by
  have hundefined : t ≠ .undefined := by
    rintro rfl
    cases hunread
  rw [convert_string ht hundefined, hunread]

/-- A text that does not read as a value of the other type is ordered by its type. -/
theorem compareOrdinary_of_text {s : String} {w : Value} (hw : w.valueType ≠ .string)
    (hunread : read? (Text.trim s.toList) w.valueType = none) :
    compareOrdinary false (.string s) w =
      Ord.compare ValueType.string.position w.valueType.position := by
  have hdefined : w.valueType ≠ .undefined := by
    intro hundefined
    rw [hundefined] at hunread
    cases hunread
  have hcommon : commonType? (string s).valueType w.valueType = some w.valueType := by
    rw [commonType?, valueType, if_neg (Ne.symm hw)]
    rfl
  have hfilter : (commonType? (string s).valueType w.valueType).filter (· ≠ .undefined) =
      some w.valueType := by
    rw [hcommon, Option.filter_some, if_pos (decide_eq_true hdefined)]
  rw [compareOrdinary, compare, if_neg (fun h => Bool.false_ne_true h.1), hfilter]
  dsimp only
  rw [convert_of_read?_eq_none hw hunread]
  rfl

/-- Values of types that cannot be promoted are ordered by type, if no text is read. -/
theorem compareOrdinary_of_promote?_eq_none {a b : Value} (ha : a.sortGroup = 2)
    (hb : b.sortGroup = 2) (hne : a.valueType ≠ b.valueType)
    (hpromote : a.valueType.promote? b.valueType = none) (hab : a.StaysBeside b)
    (hba : b.StaysBeside a) :
    compareOrdinary false a b = Ord.compare a.valueType.position b.valueType.position := by
  by_cases hstring : a.valueType = .string
  · cases a with
    | string s => exact compareOrdinary_of_text (Ne.symm hne) (hab.text s rfl hb (Ne.symm hne))
    | _ => cases hstring
  · by_cases hstring' : b.valueType = .string
    · cases b with
      | string s =>
        rw [← Ordering.swap_inj, ← compareOrdinary_swap,
          compareOrdinary_of_text hne (hba.text s rfl ha hne)]
        exact eq_swap_of_compares (compares_nat _ _) (compares_nat _ _)
      | _ => cases hstring'
    · have hcommon : commonType? a.valueType b.valueType = none := by
        simp only [commonType?, if_neg hne, hpromote, if_neg hstring, if_neg hstring']
      rw [compareOrdinary, compare, if_neg (fun h => Bool.false_ne_true h.1), hcommon]
      rfl

/-- A value that enters the doubles as the number it is, beside a double. -/
theorem exists_convert_double {v w : Value} {t : ValueType} (hvgroup : v.sortGroup = 2)
    (hwgroup : w.sortGroup = 2) (hpromote : v.valueType.promote? w.valueType = some t)
    (hv : v.StaysBeside w)
    (hdouble : v.valueType = .double ∨ w.valueType = .double) :
    ∃ x, v.convert .double = .ok (.double x) ∧ (double x).sortGroup = 2 ∧
      (double x).sortKey false = v.sortKey false := by
  cases hnumber : v.toRat? with
  | some q =>
    have hw : w.valueType = .double := by
      apply hdouble.resolve_left
      intro htype
      have hexact := isExact_of_toRat? hnumber
      rw [htype] at hexact
      cases hexact
    obtain ⟨number, hnumber?, -⟩ := Option.bind_eq_some_iff.mp hnumber
    have hkept : Double.number? number.toDouble = some ↑(q : WithTop ℚ) :=
      hv.number hw hwgroup q _ hnumber (by rw [toDouble?, hnumber?]; rfl)
    have hnan : Double.isNaN number.toDouble = false := by
      apply Bool.eq_false_iff.mpr
      intro hnan
      rw [Double.number?_of_isNaN hnan] at hkept
      cases hkept
    have hkey : (double number.toDouble).sortKey false = v.sortKey false := by
      rw [sortKey, hkept, sortKey_of_toRat? false hnumber]
    exact ⟨number.toDouble, convert_of_toValue? hnumber? rfl,
      if_neg (Bool.eq_false_iff.mp hnan), hkey⟩
  | none =>
    cases v with
    | double x => exact ⟨x, convert_self _, hvgroup, rfl⟩
    | boolean | integer | decimal => cases hnumber
    -- no other type is promoted
    | undefined | string | guid | dateTime => cases hpromote

/-- Values whose types are promoted to doubles are ordered as their keys are. -/
theorem exists_compare_of_double {a b : Value} {t : ValueType} (ha : a.sortGroup = 2)
    (hb : b.sortGroup = 2) (hpromote : a.valueType.promote? b.valueType = some t)
    (hab : a.StaysBeside b) (hba : b.StaysBeside a)
    (hdouble : a.valueType = .double ∨ b.valueType = .double) :
    ∃ order, a.compare b false = .ok (some order) ∧
      order.Compares (a.sortKey false) (b.sortKey false) := by
  have hpromote' : b.valueType.promote? a.valueType = some t := by
    rw [ValueType.promote?_comm, hpromote]
  obtain ⟨x, hx, hxgroup, hxkey⟩ := exists_convert_double ha hb hpromote hab hdouble
  obtain ⟨y, hy, hygroup, hykey⟩ := exists_convert_double hb ha hpromote' hba hdouble.symm
  have htype : commonType? a.valueType b.valueType = some .double := by
    rw [commonType?_of_promote? hpromote, ValueType.eq_double_of_promote? hpromote hdouble]
  have hdoubles : (double x).valueType = (double y).valueType := rfl
  obtain ⟨order, hsame, hcompares⟩ := exists_compareSame false hdoubles hxgroup hygroup
  rw [hxkey, hykey] at hcompares
  refine ⟨order, ?_, hcompares⟩
  rw [compare_of_convert htype (by decide) hx hy, hsame]

/-- Values of types that can be promoted are ordered as their keys are. -/
theorem exists_compare_of_promote? {a b : Value} {t : ValueType} (ha : a.sortGroup = 2)
    (hb : b.sortGroup = 2) (hpromote : a.valueType.promote? b.valueType = some t)
    (hab : a.StaysBeside b) (hba : b.StaysBeside a) :
    ∃ order, a.compare b false = .ok (some order) ∧
      order.Compares (a.sortKey false) (b.sortKey false) := by
  by_cases hdouble : a.valueType = .double ∨ b.valueType = .double
  · exact exists_compare_of_double ha hb hpromote hab hba hdouble
  · have hexact := ValueType.isExact_of_promote? hpromote hdouble
    obtain ⟨x, hx⟩ := Option.isSome_iff_exists.mp (isSome_toRat? hexact.1)
    obtain ⟨y, hy⟩ := Option.isSome_iff_exists.mp (isSome_toRat? hexact.2)
    obtain ⟨order, hcompare, hcompares⟩ := exists_compare_of_toRat? hx hy
    refine ⟨order, hcompare, ?_⟩
    rw [sortKey_of_toRat? false hx, sortKey_of_toRat? false hy]
    exact compares_map SortKey.strictMono_ofRational hcompares

/-! ## The order of any cells -/

/-- Types that can be promoted are of one family in ordinary comparison. -/
theorem band_eq_of_promote? {a b : Value} {t : ValueType} (ha : a.sortGroup = 2)
    (hb : b.sortGroup = 2) (hpromote : a.valueType.promote? b.valueType = some t) :
    a.band false = b.band false := by
  have hranked := ValueType.isSome_rank?_of_promote? hpromote
  rw [band, band, if_pos ha, if_pos hb, ValueType.family, ValueType.family,
    if_pos ⟨rfl, hranked.1⟩, if_pos ⟨rfl, hranked.2⟩]

/-- Values that are neither undefined nor a NaN are ordered as their banded keys are, in exact
comparison and wherever they are compared as they are. -/
theorem compares_compareOrdinary {exact : Bool} {a b : Value} (ha : a.sortGroup = 2)
    (hb : b.sortGroup = 2) (hstays : exact = true ∨ a.StaysBeside b ∧ b.StaysBeside a) :
    (compareOrdinary exact a b).Compares (a.bandedKey exact) (b.bandedKey exact) := by
  by_cases htype : a.valueType = b.valueType
  · have hdefined : b.valueType ≠ .undefined := by
      intro hundefined
      cases b with
      | undefined => cases hb
      | _ => cases hundefined
    have hband : a.band exact = b.band exact := by rw [band, band, ha, hb, htype]
    obtain ⟨order, hsame, hcompares⟩ := exists_compareSame exact htype ha hb
    rw [compareOrdinary, compare_of_valueType_eq exact htype hdefined, hsame]
    exact compares_bandedKey_of_band_eq hband hcompares
  · cases exact with
    | true =>
      -- exact comparison orders values of different types by type
      rw [compareOrdinary, compare, if_pos ⟨rfl, htype⟩]
      exact compares_position ha hb htype (.inl rfl)
    | false =>
      obtain ⟨hab, hba⟩ := hstays.resolve_left Bool.false_ne_true
      cases hpromote : a.valueType.promote? b.valueType with
      | none =>
        rw [compareOrdinary_of_promote?_eq_none ha hb htype hpromote hab hba]
        exact compares_position ha hb htype (.inr hpromote)
      | some t =>
        obtain ⟨order, hcompare, hcompares⟩ :=
          exists_compare_of_promote? ha hb hpromote hab hba
        rw [compareOrdinary, hcompare]
        exact compares_bandedKey_of_band_eq (band_eq_of_promote? ha hb hpromote) hcompares

theorem sortGroup_le (v : Value) : v.sortGroup ≤ 2 := by
  cases v with
  | double x =>
    rw [sortGroup]
    split <;> decide
  | undefined => exact Nat.zero_le 2
  | boolean | integer | decimal | string | guid | dateTime => exact le_refl 2

theorem bandedKey_lt_of_sortGroup_lt {a b : Value} (exact : Bool) (h : a.sortGroup < b.sortGroup) :
    a.bandedKey exact < b.bandedKey exact := by
  have hband : a.band exact = 0 := by
    have hle := b.sortGroup_le
    exact if_neg (by omega)
  rcases Nat.eq_zero_or_pos (b.band exact) with hzero | hpos
  · have hlt : Ordering.lt.Compares (a.sortKey exact) (b.sortKey exact) :=
      sortKey_lt_of_sortGroup_lt exact h
    exact compares_bandedKey_of_band_eq (hband.trans hzero.symm) hlt
  · exact bandedKey_lt_of_band_lt (hband ▸ hpos)

/-- The order of cells is that of their banded keys, in exact comparison and wherever the cells are
compared as they are. -/
theorem compares_compareKeys_bandedKey {exact : Bool} {a b : Value}
    (hstays : exact = true ∨ a.StaysBeside b ∧ b.StaysBeside a) :
    (compareKeys exact a b).Compares (a.bandedKey exact) (b.bandedKey exact) := by
  rw [compareKeys]
  rcases lt_trichotomy a.sortGroup b.sortGroup with h | h | h
  · rw [Nat.compare_eq_lt.mpr h]
    exact bandedKey_lt_of_sortGroup_lt exact h
  · rw [Nat.compare_eq_eq.mpr h]
    dsimp only
    by_cases hgroup : a.sortGroup = 2
    · rw [if_pos hgroup]
      exact compares_compareOrdinary hgroup (h ▸ hgroup) hstays
    · rw [if_neg hgroup]
      show a.bandedKey exact = b.bandedKey exact
      rw [bandedKey, bandedKey, band, band, if_neg hgroup, if_neg (h ▸ hgroup),
        sortKey_of_sortGroup_ne exact hgroup, sortKey_of_sortGroup_ne exact (h ▸ hgroup), h]
  · rw [Nat.compare_eq_gt.mpr h]
    exact bandedKey_lt_of_sortGroup_lt exact h

/-- The order of cells is reversed when they change places. It is transitive in exact comparison,
and in ordinary comparison among cells that are compared as they are. -/
theorem compareKeys_preorder (exact : Bool) (a b c : Value) :
    compareKeys exact b a = (compareKeys exact a b).swap ∧
      (exact = true ∨ (∀ v ∈ [a, b, c], ∀ w ∈ [a, b, c], v.StaysBeside w) →
        compareKeys exact a b ≠ .gt → compareKeys exact b c ≠ .gt →
          compareKeys exact a c ≠ .gt) := by
  apply And.intro (compareKeys_swap exact a b)
  intro hstays hab hbc
  have hpair (v) (hv : v ∈ [a, b, c]) (w) (hw : w ∈ [a, b, c]) :
      (compareKeys exact v w).Compares (v.bandedKey exact) (w.bandedKey exact) := by
    apply compares_compareKeys_bandedKey
    exact hstays.imp_right fun h => ⟨h v hv w hw, h w hw v hv⟩
  have hle : a.bandedKey exact ≤ b.bandedKey exact :=
    (hpair a (by simp) b (by simp)).ne_gt.mp hab
  have hle' : b.bandedKey exact ≤ c.bandedKey exact :=
    (hpair b (by simp) c (by simp)).ne_gt.mp hbc
  exact (hpair a (by simp) c (by simp)).ne_gt.mpr (hle.trans hle')

/-- An integer, a double beside it and a text that reads as neither. -/
theorem compareKeys_int32_double_text :
    compareKeys false (int32 2) (double 2.5) ≠ .gt ∧
      compareKeys false (double 2.5) (string "x") ≠ .gt ∧
      compareKeys false (int32 2) (string "x") ≠ .gt := by
  have hab : compareKeys false (int32 2) (double 2.5) ≠ .gt := by decide +kernel
  have hbc : compareKeys false (double 2.5) (string "x") ≠ .gt := by decide +kernel
  have hparts : Double.parts (Float.ofInt 2) = .finite false (2 ^ 52) (-51) := by decide +kernel
  have htwo : Double.number? (Float.ofInt 2) = some ↑((2 : ℚ) : WithTop ℚ) := by
    have hvalue : ((Double.signed false (2 ^ 52) : ℤ) : ℚ) * 2 ^ (-51 : ℤ) = 2 := by
      norm_num [Double.signed]
    rw [Double.number?, hparts]
    dsimp only
    rw [hvalue]
  have hstays : ∀ v ∈ [int32 2, double 2.5, string "x"],
      ∀ w ∈ [int32 2, double 2.5, string "x"], v.StaysBeside w := by
    intro v hv w hw
    simp only [List.mem_cons, List.not_mem_nil, or_false] at hv hw
    rcases hv with rfl | rfl | rfl
    · exact staysBeside_integer w htwo
    · exact staysBeside_double 2.5 w
    · apply staysBeside_string
      rcases hw with rfl | rfl | rfl <;> decide +kernel
  exact ⟨hab, hbc, (compareKeys_preorder false _ _ _).2 (.inr hstays) hab hbc⟩

/-- Among other cells ordinary comparison is not transitive. The texts `10` and `9` are ordered as
texts, but each is read as a number beside the number 9. The integer 2⁵³ + 1 ties with 2⁵³ as a
double, which ties with 2⁵³ as an integer. -/
theorem compareKeys_not_transitive :
    (compareKeys false (string "10") (string "9") = .lt ∧
      compareKeys false (string "9") (int32 9) = .eq ∧
      compareKeys false (string "10") (int32 9) = .gt) ∧
    compareKeys false (integer .int64 9007199254740993) (double 9007199254740992) = .eq ∧
      compareKeys false (double 9007199254740992) (integer .int64 9007199254740992) = .eq ∧
      compareKeys false (integer .int64 9007199254740993)
        (integer .int64 9007199254740992) = .gt := by
  decide +kernel

end Value

end RowFilter
