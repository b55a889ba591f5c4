import RowFilter.Number.Decimal.Text
import RowFilter.Proofs.Number.Decimal
import RowFilter.Proofs.Number.Digits

/-!
Decimals are read back from their text. Whichever way a text is put together, with a point, with
zeros at the end or with an exponent, it is a numeral of the same number.
-/

namespace RowFilter.Decimal

/-! ## Numerals -/

/-- A point and digits after it, or nothing; the digits. -/
inductive IsFraction : List Char → List Char → Prop where
  | none : IsFraction [] []
  | point {ds : List Char} (h : ∀ c ∈ ds, c.isDigit = true) : IsFraction ('.' :: ds) ds

/-- A mark and a signed number of 128 bits after it, or nothing; the number. -/
inductive IsExponent : List Char → ℤ → Prop where
  | none : IsExponent [] 0
  | mark {c : Char} {s : List Char} {e : ℤ} (hc : c = 'e' ∨ c = 'E') (hs : Integer.IsNumeral s e)
      (he : exponentFits e = true) : IsExponent (c :: s) e

/-- The numeral of `n · 10 ^ (-scale)`: digits, a fraction and an exponent. -/
inductive IsNumeral (s : List Char) (n : ℕ) (scale : ℤ) : Prop where
  | mk {whole point fraction mark : List Char} {exponent : ℤ} (hwhole : Integer.IsDigits whole)
      (hfraction : IsFraction point fraction) (hexponent : IsExponent mark exponent)
      (htext : s = whole ++ (point ++ mark))
      (hunits : Nat.ofDigitChars 10 (whole ++ fraction) 0 = n)
      (hscale : fraction.length - exponent = scale)

theorem IsFraction.isDigit {s ds : List Char} (h : IsFraction s ds) :
    ∀ c ∈ ds, c.isDigit = true := by
  cases h with
  | none => exact nofun
  | point h => exact h

theorem IsFraction.forall_mem {P : Char → Prop} (hpoint : P '.')
    (hdigit : ∀ c, c.isDigit = true → P c) {s ds : List Char} (h : IsFraction s ds) :
    ∀ c ∈ s, P c := by
  cases h with
  | none => exact nofun
  | point h => exact List.forall_mem_cons.mpr ⟨hpoint, fun c hc => hdigit c (h c hc)⟩

theorem IsExponent.forall_not_blank {s : List Char} {e : ℤ} (h : IsExponent s e) :
    ∀ c ∈ s, Text.isBlank c = false := by
  cases h with
  | none => exact nofun
  | mark hc hs =>
    refine List.forall_mem_cons.mpr ⟨?_, hs.forall_not_blank⟩
    rcases hc with rfl | rfl <;> decide

theorem IsNumeral.forall_not_blank {s : List Char} {n : ℕ} {scale : ℤ} (h : IsNumeral s n scale) :
    ∀ c ∈ s, Text.isBlank c = false := by
  cases h with
  | mk hwhole hfraction hexponent htext =>
    rw [htext, List.forall_mem_append, List.forall_mem_append]
    have hdigit (c : Char) (hc : c.isDigit = true) : Text.isBlank c = false := isBlank_of_isDigit hc
    exact ⟨fun c hc => hdigit c (hwhole.2 c hc), hfraction.forall_mem (by decide) hdigit,
      hexponent.forall_not_blank⟩

/-! ## Reading of numerals -/

/-- No underscore stands among digits. -/
theorem filter_underscore {ds : List Char} (h : ∀ c ∈ ds, c.isDigit = true) :
    ds.filter (· ≠ '_') = ds :=
  List.filter_eq_self.mpr fun c hc =>
    forall_isDigit (P := fun c => decide (c ≠ '_') = true) (by decide) (h c hc)

theorem readDigits?_of_digits {ds : List Char} (h : Integer.IsDigits ds) :
    readDigits? ds = some (Nat.ofDigitChars 10 ds 0) := by
  unfold readDigits?
  split
  · exact absurd rfl h.1
  · exact absurd (h.2 '_' List.mem_cons_self) (by decide)
  · rw [filter_underscore h.2, if_pos (List.all_eq_true.mpr h.2), Nat.ofDigitChars_eq_foldl]
    rfl

/-- The digits after the point are joined to what stands before it. -/
theorem splitPoint_append {front s ds : List Char} (hfront : ∀ c ∈ front, c ≠ '.')
    (h : IsFraction s ds) : splitPoint (front ++ s) = (front ++ ds, ds.length) := by
  have hfront' : ∀ c ∈ front, decide (c ≠ '.') = true := fun c hc => decide_eq_true (hfront c hc)
  rw [splitPoint, List.takeWhile_append_of_pos hfront', List.dropWhile_append_of_pos hfront']
  cases h with
  | none => rfl
  | point h =>
    show (front ++ [] ++ ds, (ds.filter (· ≠ '_')).length) = _
    rw [filter_underscore h, List.append_nil]

/-- A numeral in its parts: what stands before the exponent has no mark, and reads as a number with
so many digits after the point. -/
theorem read?_append {front joined ds s : List Char} {negative : Bool} {n places : ℕ} {e : ℤ}
    (hfront : ∀ c ∈ front, c ≠ 'e' ∧ c ≠ 'E') (hpoint : splitPoint front = (joined, places))
    (hsign : Double.readSign joined = (negative, ds)) (hdigits : readDigits? ds = some n)
    (hexponent : IsExponent s e) (hscale : scaleFits (places - e) = true) :
    read? (front ++ s) = some ⟨Double.signed negative n, places - e⟩ := by
  have hfront' : ∀ c ∈ front, (!(decide (c = 'e') || decide (c = 'E'))) = true := by
    simpa using hfront
  -- the exponent is there from its mark on, and is read from what follows it
  have hcut : s.takeWhile (fun c => !(decide (c = 'e') || decide (c = 'E'))) = [] ∧
      s.dropWhile (fun c => !(decide (c = 'e') || decide (c = 'E'))) = s := by
    cases hexponent with
    | none => exact ⟨rfl, rfl⟩
    | mark hc => rcases hc with rfl | rfl <;> exact ⟨rfl, rfl⟩
  unfold read?
  simp only [List.takeWhile_append_of_pos hfront', List.dropWhile_append_of_pos hfront', hcut.1,
    hcut.2, List.append_nil, hpoint, hsign, hdigits]
  cases hexponent with
  | none => exact if_pos hscale
  | mark hc hs he =>
    simp only [Integer.readExponent?_eq_some_iff.mpr hs, Option.filter_some, he, hscale, if_true]

/-- A numeral is read, with a minus sign before it or without one. -/
theorem IsNumeral.read?_eq {s : List Char} {n : ℕ} {scale : ℤ} (h : IsNumeral s n scale)
    (hscale : scaleFits scale = true) (negative : Bool) :
    read? (if negative = true then '-' :: s else s) = some ⟨Double.signed negative n, scale⟩ := by
  cases h with
  | @mk whole point fraction mark e hwhole hfraction hexponent htext hunits hplaces =>
    subst htext hunits hplaces
    have hdigits : Integer.IsDigits (whole ++ fraction) :=
      ⟨List.append_ne_nil_of_left_ne_nil hwhole.1 _,
        List.forall_mem_append.mpr ⟨hwhole.2, hfraction.isDigit⟩⟩
    have hmarks (c : Char) (hc : c.isDigit = true) : c ≠ 'e' ∧ c ≠ 'E' :=
      forall_isDigit (P := fun c => c ≠ 'e' ∧ c ≠ 'E') (by decide) hc
    have hwhole' : ∀ c ∈ whole, c ≠ '.' := fun c hc =>
      forall_isDigit (P := fun c => c ≠ '.') (by decide) (hwhole.2 c hc)
    have hfront : ∀ c ∈ whole ++ point, c ≠ 'e' ∧ c ≠ 'E' :=
      List.forall_mem_append.mpr
        ⟨fun c hc => hmarks c (hwhole.2 c hc), hfraction.forall_mem (by decide) hmarks⟩
    -- the point is looked for before the sign is, so the sign is joined to the digits with the rest
    cases negative with
    | false =>
      rw [if_neg Bool.false_ne_true, ← List.append_assoc]
      exact read?_append hfront (splitPoint_append hwhole' hfraction)
        (Integer.readSign_of_digits hdigits.2) (readDigits?_of_digits hdigits) hexponent hscale
    | true =>
      have hminus : splitPoint ('-' :: whole ++ point) =
          ('-' :: whole ++ fraction, fraction.length) :=
        splitPoint_append (List.forall_mem_cons.mpr ⟨by decide, hwhole'⟩) hfraction
      rw [if_pos rfl, ← List.append_assoc]
      exact read?_append (List.forall_mem_cons.mpr ⟨by decide, hfront⟩) hminus rfl
        (readDigits?_of_digits hdigits) hexponent hscale

/-! ## The text of a decimal -/

theorem isDigit_zeros (k : ℕ) : ∀ c ∈ List.replicate k '0', c.isDigit = true := by
  intro c hc
  rw [List.eq_of_mem_replicate hc]
  rfl

section Shapes

variable {ds : List Char} (hds : Integer.IsDigits ds)

include hds

/-- Zeros at the end belong to the units. -/
theorem isNumeral_zeros (k : ℕ) :
    IsNumeral (ds ++ List.replicate k '0') (Nat.ofDigitChars 10 ds 0 * 10 ^ k) 0 := by
  have hdigits : Integer.IsDigits (ds ++ List.replicate k '0') :=
    ⟨List.append_ne_nil_of_left_ne_nil hds.1 _,
      List.forall_mem_append.mpr ⟨hds.2, isDigit_zeros k⟩⟩
  refine .mk hdigits .none .none ?_ ?_ rfl
  · rw [List.append_nil, List.append_nil]
  · rw [List.append_nil, Nat.ofDigitChars_append, Nat.ofDigitChars_replicate_zero, Nat.mul_comm]

theorem isNumeral_exponent {k : ℕ} (hk : exponentFits k = true) :
    IsNumeral (ds ++ 'e' :: '+' :: Nat.toDigits 10 k) (Nat.ofDigitChars 10 ds 0) (-k) := by
  have hnumeral := Integer.IsNumeral.plus (Integer.isDigits_toDigits k)
  rw [Nat.ofDigitChars_ten_toDigits] at hnumeral
  refine .mk hds .none (.mark (.inl rfl) hnumeral hk) rfl ?_ ?_
  · rw [List.append_nil]
  · rw [List.length_nil, Nat.cast_zero, zero_sub]

/-- Digits with a point among them, but not before the first. -/
theorem isNumeral_point {i : ℕ} (hi : 0 < i) {mark : List Char} {exponent scale : ℤ}
    (hmark : IsExponent mark exponent) (hscale : (ds.length - i : ℕ) - exponent = scale) :
    IsNumeral (ds.take i ++ '.' :: (ds.drop i ++ mark)) (Nat.ofDigitChars 10 ds 0) scale := by
  have hpos : 0 < ds.length := List.length_pos_iff.mpr hds.1
  have hwhole : Integer.IsDigits (ds.take i) := by
    refine ⟨List.ne_nil_of_length_pos ?_, fun c hc => hds.2 c (List.mem_of_mem_take hc)⟩
    rw [List.length_take]
    omega
  have hfraction : IsFraction ('.' :: ds.drop i) (ds.drop i) :=
    .point fun c hc => hds.2 c (List.mem_of_mem_drop hc)
  refine .mk hwhole hfraction hmark ?_ ?_ ?_
  · rw [List.cons_append]
  · rw [List.take_append_drop]
  · rw [List.length_drop, hscale]

/-- Zeros before the digits make no difference to the units. -/
theorem isNumeral_withPoint (places : ℕ) :
    IsNumeral (withPoint ds places) (Nat.ofDigitChars 10 ds 0) places := by
  obtain ⟨zeros, hzeros⟩ : ∃ k, k = places + 1 - ds.length := ⟨_, rfl⟩
  have hpadded : Integer.IsDigits (List.replicate zeros '0' ++ ds) :=
    ⟨List.append_ne_nil_of_right_ne_nil _ hds.1,
      List.forall_mem_append.mpr ⟨isDigit_zeros _, hds.2⟩⟩
  have hlength : (List.replicate zeros '0' ++ ds).length = zeros + ds.length := by
    rw [List.length_append, List.length_replicate]
  have hunits : Nat.ofDigitChars 10 (List.replicate zeros '0' ++ ds) 0 =
      Nat.ofDigitChars 10 ds 0 := by
    rw [Nat.ofDigitChars_append, Nat.ofDigitChars_replicate_zero, Nat.mul_zero]
  -- as many zeros were put in front as keep a digit before the point
  have hbefore : 0 < zeros + ds.length - places := by omega
  have hplaces : (((List.replicate zeros '0' ++ ds).length - (zeros + ds.length - places) : ℕ) : ℤ)
      - 0 = places := by
    rw [hlength]
    omega
  have hnumeral := isNumeral_point hpadded hbefore .none hplaces
  rw [List.append_nil, hunits] at hnumeral
  rw [withPoint, ← hzeros, hlength]
  exact hnumeral

/-- The exponent makes up for the digits after the point. -/
theorem isNumeral_scientific {scale : ℤ} (h : ds.length ≤ scale + 1)
    (hfits : exponentFits (-(scale - ds.length + 1)) = true) :
    IsNumeral (scientific ds scale) (Nat.ofDigitChars 10 ds 0) scale := by
  have hexponent :=
    Integer.IsNumeral.minus (Integer.isDigits_toDigits (scale - ds.length + 1).toNat)
  rw [Nat.ofDigitChars_ten_toDigits, Int.toNat_of_nonneg (by omega)] at hexponent
  have hmark := IsExponent.mark (.inr rfl) hexponent hfits
  have hpos : 0 < ds.length := List.length_pos_iff.mpr hds.1
  rw [scientific]
  split
  · refine .mk hds .none hmark rfl ?_ ?_
    · rw [List.append_nil]
    · rw [List.length_nil]
      omega
  · rw [List.append_assoc]
    exact isNumeral_point hds (by decide) hmark (by omega)

end Shapes

theorem scaleFits_iff {k : ℤ} : scaleFits k = true ↔ -twoTo 63 ≤ k ∧ k < twoTo 63 := by
  rw [scaleFits, Bool.and_eq_true, decide_eq_true_iff, decide_eq_true_iff]

/-- The scale with its sign turned is an exponent, though it need not be a scale. -/
theorem exponentFits_of_le {e : ℤ} (hle : -twoTo 63 ≤ e) (hge : e ≤ twoTo 63) :
    exponentFits e = true := by
  have hwide : (twoTo 63 : ℤ) < twoTo 127 := by decide
  rw [exponentFits, Bool.and_eq_true, decide_eq_true_iff, decide_eq_true_iff]
  omega

/-- A decimal is written as a numeral of its magnitude, after a minus sign if it is negative. -/
theorem exists_text_eq {d : Decimal} (h : scaleFits d.scale = true) :
    ∃ s n scale, IsNumeral s n scale ∧ scaleFits scale = true ∧
      d.text = (if d.units < 0 then '-' :: s else s) ∧ n * 10 ^ (-scale) = |d.value| := by
  have hds := Integer.isDigits_toDigits d.units.natAbs
  have hunits : Nat.ofDigitChars 10 (Nat.toDigits 10 d.units.natAbs) 0 = d.units.natAbs :=
    Nat.ofDigitChars_ten_toDigits
  have hfits := scaleFits_iff.mp h
  rw [text]
  by_cases hd : d.units = 0
  · have hnumeral : IsNumeral ['0'] 0 0 := .mk (Integer.isDigits_toDigits 0) .none .none rfl rfl rfl
    refine ⟨_, _, _, hnumeral, by decide, ?_, ?_⟩
    · rw [if_pos hd, if_neg (by omega)]
    · rw [value_eq_zero hd, abs_zero, Nat.cast_zero, zero_mul]
  rw [if_neg hd, d.abs_value]
  dsimp only
  by_cases hscale : 0 < d.scale
  · -- digits stand after the point, unless too many zeros would come first
    rw [if_pos hscale]
    by_cases hfar : d.scale - (Nat.toDigits 10 d.units.natAbs).length > leadingZeroLimit
    · have hzeros : 0 < leadingZeroLimit := by decide
      have hlength : ((Nat.toDigits 10 d.units.natAbs).length : ℤ) ≤ d.scale + 1 := by omega
      have hnumeral := isNumeral_scientific hds hlength (exponentFits_of_le (by omega) (by omega))
      rw [hunits] at hnumeral
      rw [if_pos hfar]
      exact ⟨_, _, _, hnumeral, h, rfl, rfl⟩
    · have hnumeral := isNumeral_withPoint hds d.scale.toNat
      rw [hunits, Int.toNat_of_nonneg hscale.le] at hnumeral
      rw [if_neg hfar]
      exact ⟨_, _, _, hnumeral, h, rfl, rfl⟩
  · -- the scale implies zeros, which are written out unless they are too many
    have hcast : ((-d.scale).toNat : ℤ) = -d.scale := Int.toNat_of_nonneg (by omega)
    rw [if_neg hscale]
    by_cases hfar : -d.scale > trailingZeroLimit
    · have hnumeral := isNumeral_exponent hds (k := (-d.scale).toNat)
        (exponentFits_of_le (by omega) (by omega))
      rw [hunits, hcast, neg_neg] at hnumeral
      rw [if_pos hfar]
      exact ⟨_, _, _, hnumeral, h, rfl, rfl⟩
    · have hnumeral := isNumeral_zeros hds (-d.scale).toNat
      rw [hunits] at hnumeral
      rw [if_neg hfar]
      refine ⟨_, _, _, hnumeral, by decide, rfl, ?_⟩
      rw [neg_zero, zpow_zero, mul_one, Nat.cast_mul, Nat.cast_pow, Nat.cast_ofNat, ← zpow_natCast,
        hcast]

/-- A decimal is read back from its text as the same number. -/
theorem exists_read?_text {d : Decimal} (h : scaleFits d.scale = true) :
    ∃ e, read? d.text = some e ∧ e.value = d.value := by
  obtain ⟨s, n, scale, hs, hscale, htext, hvalue⟩ := exists_text_eq h
  rw [htext]
  by_cases hneg : d.units < 0
  · rw [if_pos hneg]
    refine ⟨_, hs.read?_eq hscale true, ?_⟩
    show ((-(n : ℤ) : ℤ) : ℚ) * 10 ^ (-scale) = d.value
    rw [Int.cast_neg, Int.cast_natCast, neg_mul, hvalue, abs_of_neg (d.value_neg_iff.mpr hneg),
      neg_neg]
  · have hnonneg : 0 ≤ d.value := not_lt.mp fun hlt => hneg (d.value_neg_iff.mp hlt)
    rw [if_neg hneg]
    refine ⟨_, hs.read?_eq hscale false, ?_⟩
    show ((n : ℤ) : ℚ) * 10 ^ (-scale) = d.value
    rw [Int.cast_natCast, hvalue, abs_of_nonneg hnonneg]

/-- What is read back from the text of a decimal is the same number. -/
theorem value_readBack {d : Decimal} (h : scaleFits d.scale = true) :
    d.readBack.value = d.value := by
  obtain ⟨e, hread, he⟩ := exists_read?_text h
  rw [readBack, hread, Option.getD_some, he]

/-- No blanks stand in the text of a decimal. -/
theorem text_not_blank {d : Decimal} (h : scaleFits d.scale = true) :
    ∀ c ∈ d.text, Text.isBlank c = false := by
  obtain ⟨s, n, scale, hs, -, htext, -⟩ := exists_text_eq h
  rw [htext]
  split
  · exact List.forall_mem_cons.mpr ⟨by decide, hs.forall_not_blank⟩
  · exact hs.forall_not_blank

end RowFilter.Decimal
