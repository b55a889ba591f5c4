import RowFilter.Proofs.Number.DecimalText
import RowFilter.Proofs.Token.Front

/-!
Numbers among the tokens: how they are written. A hexadecimal number is its mark and digits, any
other one is digits with a point or an exponent, or digits alone.
-/

namespace RowFilter.Token

/-! ## Ways to write a number -/

/-- A mark and a signed number after it, or nothing; the number. -/
inductive IsScale : List Char → Int → Prop where
  | none : IsScale [] 0
  | mark {c : Char} {s : List Char} {e : Int} (hc : c = 'e' ∨ c = 'E')
      (hs : Integer.IsNumeral s e) : IsScale (c :: s) e

/-- Digits, a point with more digits after it, and an exponent, of which parts may be missing but
not all digits; the digits, and the power of ten that they are multiplied by. -/
inductive IsDecimal : List Char → List Char → Int → Prop where
  | mk {whole point fraction mark : List Char} {e : Int}
      (hwhole : ∀ c ∈ whole, c.isDigit = true) (hfraction : Decimal.IsFraction point fraction)
      (hdigits : whole ++ fraction ≠ []) (hmark : IsScale mark e) :
      IsDecimal (whole ++ (point ++ mark)) (whole ++ fraction) (e - fraction.length)

/-- A zero with a mark and hexadecimal digits; the digits. -/
inductive IsHexadecimal : List Char → List Char → Prop where
  | mk {c : Char} {ds : List Char} (hc : c = 'x' ∨ c = 'X') (hds : ds ≠ [])
      (hhex : ∀ d ∈ ds, Guid.isHexDigit d = true) : IsHexadecimal ('0' :: c :: ds) ds

theorem IsHexadecimal.eq_drop {s ds : List Char} (h : IsHexadecimal s ds) : ds = s.drop 2 := by
  cases h
  rfl

/-- Digits alone are a number without a point and an exponent. -/
theorem isDecimal_of_isDigits {ds : List Char} (h : Integer.IsDigits ds) : IsDecimal ds ds 0 := by
  have hdecimal := IsDecimal.mk h.2 .none (by simpa using h.1) .none
  simpa using hdecimal

/-- A number without the marks of a point and of an exponent is digits. -/
theorem IsDecimal.isDigits {s ds : List Char} {e : Int} (h : IsDecimal s ds e)
    (hmarks : ∀ c ∈ s, c ≠ '.' ∧ c ≠ 'e' ∧ c ≠ 'E') : Integer.IsDigits s := by
  cases h with
  | @mk whole point fraction mark e hwhole hfraction hdigits hmark =>
    cases hfraction with
    | point => exact absurd rfl (hmarks '.' (by simp)).1
    | none =>
      cases hmark with
      | @mark c s e hc =>
        obtain ⟨-, he, hE⟩ := hmarks c (by simp)
        exact (hc.elim he hE).elim
      | none =>
        rw [List.append_nil] at hdigits
        rw [List.nil_append, List.append_nil]
        exact ⟨hdigits, hwhole⟩

/-! ## What the scanner takes for a number -/

variable {s : List Char}

theorem exists_isHexadecimal (h : hexLength s ≠ 0) :
    ∃ ds, IsHexadecimal (s.take (numberLength s)) ds := by
  have hlength : numberLength s = hexLength s := if_pos h
  obtain ⟨c, r, rfl, hc, hdigits, hhex⟩ := exists_of_hexLength h
  rw [hlength, hhex, List.take_succ_cons, List.take_succ_cons, take_length_takeWhile]
  exact ⟨_, .mk hc hdigits fun _ => List.mem_takeWhile_imp⟩

/-- Behind the first digits a point with more digits may follow. -/
theorem exists_isFraction {ds t : List Char} (hds : ∀ c ∈ ds, c.isDigit = true)
    (ht : t.head?.any Char.isDigit = false) (h : startsNumber (ds ++ t) = true) :
    ∃ point fraction, (ds ++ t).take (digitsLength (ds ++ t)) = ds ++ point ∧
      Decimal.IsFraction point fraction ∧ ds ++ fraction ≠ [] := by
  have hlength : digitsLength (ds ++ t) = withFraction ds.length t := by
    rw [digitsLength_eq, takeWhile_append_of_stop hds ht, List.drop_left]
  -- without a point the digits are all that there is
  have halone (hne : ds ≠ []) : (ds ++ t).take ds.length = ds ++ [] ∧
      Decimal.IsFraction [] [] ∧ ds ++ [] ≠ [] :=
    ⟨by rw [List.take_left, List.append_nil], .none, by rwa [List.append_nil]⟩
  rw [hlength]
  rcases t with _ | ⟨c, r⟩
  · refine ⟨[], [], halone ?_⟩
    rintro rfl
    cases h
  · by_cases hc : c = '.'
    · subst hc
      rw [withFraction_point]
      split
      · next hnone =>
        obtain rfl : ds = [] := List.eq_nil_of_length_eq_zero hnone.1
        rcases r with _ | ⟨d, r⟩
        · cases h
        · have hd : d.isDigit = true := h
          rw [List.takeWhile_cons_of_pos hd] at hnone
          exact absurd hnone.2 (Nat.succ_ne_zero _)
      · next hdigits =>
        refine ⟨'.' :: r.takeWhile Char.isDigit, _, ?_,
          .point fun _ => List.mem_takeWhile_imp, fun hnil => hdigits ?_⟩
        · rw [Nat.add_assoc, List.take_length_add_append, Nat.add_comm, List.take_succ_cons,
            take_length_takeWhile]
        · obtain ⟨hnone, hnone'⟩ := List.append_eq_nil_iff.mp hnil
          rw [hnone, hnone']
          exact ⟨rfl, rfl⟩
    · rw [withFraction_of_ne hc]
      refine ⟨[], [], halone ?_⟩
      rintro rfl
      have hdigit : c.isDigit = true := (startsNumber_of_ne hc r).symm.trans h
      rw [List.head?_cons, Option.any_some, hdigit] at ht
      cases ht

/-- A sign and digits are a signed number. -/
theorem exists_isNumeral {r ds : List Char} (h : Integer.IsDigits ds) :
    ∃ e, Integer.IsNumeral (r.take (signLength r) ++ ds) e := by
  rcases r with _ | ⟨d, r⟩
  · exact ⟨_, .unsigned h⟩
  · by_cases hd : (d = '+' || d = '-') = true
    · have hsign : signLength (d :: r) = 1 := if_pos hd
      rw [hsign]
      rcases Bool.or_eq_true_iff.mp hd with hd | hd
      · rw [of_decide_eq_true hd]
        exact ⟨_, .plus h⟩
      · rw [of_decide_eq_true hd]
        exact ⟨_, .minus h⟩
    · have hsign : signLength (d :: r) = 0 := if_neg hd
      rw [hsign]
      exact ⟨_, .unsigned h⟩

theorem exists_isScale (s : List Char) : ∃ e, IsScale (s.take (exponentLength s)) e := by
  rcases s with _ | ⟨c, r⟩
  · exact ⟨0, .none⟩
  · cases hc : (c = 'e' || c = 'E') with
    | false =>
      rw [exponentLength_of_ne_mark hc]
      exact ⟨0, .none⟩
    | true =>
      rw [exponentLength_mark hc]
      split
      · exact ⟨0, .none⟩
      · next hdigits =>
        have hds : Integer.IsDigits ((r.drop (signLength r)).takeWhile Char.isDigit) :=
          ⟨fun hnil => hdigits (by rw [hnil]; rfl), fun _ => List.mem_takeWhile_imp⟩
        obtain ⟨e, he⟩ := exists_isNumeral (r := r) hds
        refine ⟨e, ?_⟩
        rw [Nat.add_assoc, Nat.add_comm, List.take_succ_cons, List.take_add, take_length_takeWhile]
        exact .mark (by simpa using hc) he

theorem exists_isDecimal (hhex : hexLength s = 0) (h : startsNumber s = true) :
    ∃ ds e, IsDecimal (s.take (numberLength s)) ds e := by
  have hlength : numberLength s = digitsLength s + exponentLength (s.drop (digitsLength s)) :=
    if_neg (not_not_intro hhex)
  have hsplit := List.prefix_iff_eq_append.mp (List.takeWhile_prefix Char.isDigit (l := s))
  have hwhole : ∀ c ∈ s.takeWhile Char.isDigit, c.isDigit = true := fun _ => List.mem_takeWhile_imp
  obtain ⟨point, fraction, htake, hfraction, hdigits⟩ :=
    exists_isFraction hwhole (any_head?_drop_takeWhile Char.isDigit s) (by rwa [hsplit])
  rw [hsplit] at htake
  obtain ⟨e, he⟩ := exists_isScale (s.drop (digitsLength s))
  have hdecimal := IsDecimal.mk hwhole hfraction hdigits he
  rw [← List.append_assoc, ← htake, ← List.take_add, ← hlength] at hdecimal
  exact ⟨_, _, hdecimal⟩

/-! ## Numbers among the tokens -/

/-- What is written of a number: its kind tells the ways to write it apart. -/
inductive IsNumber : Kind → Prop where
  | hexadecimal {text : String} {ds : List Char} (h : IsHexadecimal text.toList ds) :
      IsNumber (.integer text)
  | digits {text : String} (h : Integer.IsDigits text.toList) : IsNumber (.integer text)
  | decimal {text : String} {ds : List Char} {e : Int} (h : IsDecimal text.toList ds e) :
      IsNumber (.numeric text)

theorem isNumber_of_readNumber {kind : Kind} {length : Nat} (hstart : startsNumber s = true)
    (h : readNumber s = .token kind length) : IsNumber kind := by
  have hchars : (String.ofList (s.take (numberLength s))).toList = s.take (numberLength s) :=
    String.toList_ofList
  unfold readNumber at h
  dsimp only at h
  split at h
  · cases h
  · by_cases hhex : hexLength s = 0
    · obtain ⟨ds, e, hdecimal⟩ := exists_isDecimal hhex hstart
      rw [← hchars] at hdecimal
      split at h
      · cases h
        exact .decimal hdecimal
      · next hmarks =>
        cases h
        have hnone : ∀ c ∈ s.take (numberLength s), c ≠ '.' ∧ c ≠ 'e' ∧ c ≠ 'E' := by
          simpa [hhex, and_assoc] using hmarks
        rw [← hchars] at hnone
        exact .digits (hdecimal.isDigits hnone)
    · obtain ⟨ds, hds⟩ := exists_isHexadecimal hhex
      rw [← hchars] at hds
      rw [decide_eq_false hhex, Bool.false_and, if_neg Bool.false_ne_true] at h
      cases h
      exact .hexadecimal hds

/-- A token of the kind of numbers is written as one. -/
theorem isNumber_of_readStart {c : Char} {r : List Char} {kind : Kind} {length : Nat}
    (h : readStart c r = .token kind length)
    (hkind : (∃ text, kind = .integer text) ∨ ∃ text, kind = .numeric text) : IsNumber kind := by
  cases startsToken_of_readStart h with
  | number _ _ hstart hread => exact isNumber_of_readNumber hstart hread
  -- no other reading gives a number
  | guid | measurementKey => simp at hkind
  | word _ _ hread =>
    unfold readWord at hread
    dsimp only at hread
    split at hread <;> cases hread <;> simp at hkind
  | quoted ho => cases ho <;> simp at hkind
  | symbol hread =>
    unfold readSymbol at hread
    split at hread
    · cases hread
      simp at hkind
    · cases hread

end RowFilter.Token
