import Mathlib.Data.List.Induction
import RowFilter.Binding.Literal
import RowFilter.Proofs.Token.Numeral

/-!
Literals among the tokens have values. What the scanner takes for a number or an identifier is read
as one, but for hexadecimal numbers of more than 128 bits.
-/

namespace RowFilter

open Token

/-! ## Identifiers -/

namespace Guid

theorem natOfHex_concat (ds : List Char) (c : Char) :
    Integer.natOfHex (ds ++ [c]) = 16 * Integer.natOfHex ds + (hexValue? c).getD 0 := by
  rw [Integer.natOfHex, List.foldl_append]
  rfl

theorem natOfHex_lt {ds : List Char} (h : ∀ c ∈ ds, isHexDigit c = true) :
    Integer.natOfHex ds < 16 ^ ds.length := by
  induction ds using List.reverseRecOn with
  | nil => exact Nat.one_pos
  | append_singleton ds c ih =>
    obtain ⟨n, hn, hlt, -⟩ := exists_hexValue? (h c (by simp))
    have hds := ih fun d hd => h d (List.mem_append_left _ hd)
    rw [natOfHex_concat, hn, Option.getD_some, List.length_append, List.length_singleton,
      Nat.pow_succ]
    omega

/-- The digits of the number that digits stand for are these digits, in lowercase. -/
theorem hexDigits_natOfHex {ds : List Char} (h : ∀ c ∈ ds, isHexDigit c = true) :
    hexDigits (Integer.natOfHex ds) ds.length = ds.map Char.toLower := by
  -- the last digit is split off first
  induction ds using List.reverseRecOn with
  | nil => rfl
  | append_singleton ds c ih =>
    obtain ⟨n, hn, hlt, hlower⟩ := exists_hexValue? (h c (by simp))
    have hdiv : (16 * Integer.natOfHex ds + n) / 16 = Integer.natOfHex ds := by omega
    have hmod : (16 * Integer.natOfHex ds + n) % 16 = n := by omega
    rw [natOfHex_concat, hn, Option.getD_some, List.length_append, List.length_singleton, hexDigits,
      hdiv, hmod, ih fun d hd => h d (List.mem_append_left _ hd), hlower, List.map_append]
    rfl

theorem IsHyphenated.filter_isHexDigit {s : List Char} (h : IsHyphenated s) :
    s.filter isHexDigit = s.filter (· ≠ '-') := by
  refine List.filter_congr fun x hx => ?_
  rcases h.isHexDigit_or_eq hx with hhex | rfl
  · rw [hhex, decide_eq_true (ne_hyphen_of_isHexDigit hhex)]
  · rfl

/-- An identifier has the digits of its text. -/
theorem IsHyphenated.exists_ofForm? {s : List Char} (h : IsHyphenated s) :
    ∃ g, ofForm? s = some g ∧
      g.text.filter isHexDigit = (s.filter isHexDigit).map Char.toLower := by
  obtain ⟨ds, -, hfilter, hlength, hhex⟩ := h.exists_hyphenate
  have hvalue : (BitVec.ofNat 128 (Integer.natOfHex ds)).toNat = Integer.natOfHex ds := by
    have hlt := natOfHex_lt hhex
    rw [hlength] at hlt
    rw [BitVec.toNat_ofNat]
    exact Nat.mod_eq_of_lt hlt
  refine ⟨⟨BitVec.ofNat 128 (Integer.natOfHex ds)⟩, ?_, ?_⟩
  · rw [h.ofForm?_eq, hfilter, ofDigits?, if_pos ⟨hlength, List.all_eq_true.mpr hhex⟩]
    rfl
  · rw [(isHyphenated_text _).filter_isHexDigit, filter_text, h.filter_isHexDigit, hfilter, hvalue,
      ← hlength, hexDigits_natOfHex hhex]

theorem exists_read?_of_isGuidText {t : List Char} (h : IsGuidText t) :
    ∃ g, read? t = some g ∧ g.text.filter isHexDigit = (t.filter isHexDigit).map Char.toLower := by
  obtain h | ⟨u, rfl, hu⟩ := h
  · rw [h.read?_eq]
    exact h.exists_ofForm?
  · have hbraces : ('\x7b' :: (u ++ ['\x7d'])).filter isHexDigit = u.filter isHexDigit := by
      have hclosing : ['\x7d'].filter isHexDigit = [] := rfl
      rw [List.filter_cons_of_neg (by decide), List.filter_append, hclosing, List.append_nil]
    rw [read?_braced, hbraces]
    exact hu.exists_ofForm?

end Guid

/-! ## Doubles -/

namespace Double

/-- No digit stands where an exponent does. -/
theorem isDigit_head?_of_isScale {s : List Char} {e : Int} (h : IsScale s e) :
    s.head?.any Char.isDigit = false := by
  cases h with
  | none => rfl
  | mark hc => rcases hc with rfl | rfl <;> rfl

/-- The digits behind a point, and what follows them. -/
def splitFraction : List Char → List Char × List Char
  | '.' :: r => (r.takeWhile Char.isDigit, r.dropWhile Char.isDigit)
  | r => ([], r)

/-- The exponent behind a numeral: none is zero. -/
def readScale? : List Char → Option Int
  | [] => some 0
  | c :: r => if c = 'e' || c = 'E' then readExponent? r else none

theorem readNumeral?_eq (s : List Char) :
    readNumeral? s =
      if (s.takeWhile Char.isDigit).isEmpty &&
          (splitFraction (s.dropWhile Char.isDigit)).1.isEmpty then none
      else (readScale? (splitFraction (s.dropWhile Char.isDigit)).2).map fun e =>
        ⟨s.takeWhile Char.isDigit ++ (splitFraction (s.dropWhile Char.isDigit)).1,
          e - (splitFraction (s.dropWhile Char.isDigit)).1.length⟩ := rfl

theorem splitFraction_append {point fraction mark : List Char} {e : Int}
    (h : Decimal.IsFraction point fraction) (hmark : IsScale mark e) :
    splitFraction (point ++ mark) = (fraction, mark) := by
  cases h with
  | none =>
    cases hmark with
    | none => rfl
    | mark hc => rcases hc with rfl | rfl <;> rfl
  | point h =>
    have hend := isDigit_head?_of_isScale hmark
    show ((fraction ++ mark).takeWhile Char.isDigit, (fraction ++ mark).dropWhile Char.isDigit) = _
    rw [takeWhile_append_of_stop h hend, dropWhile_append_of_stop h hend]

theorem readScale?_of_isScale {s : List Char} {e : Int} (h : IsScale s e) :
    readScale? s = some e := by
  cases h with
  | none => rfl
  | mark hc hs =>
    rw [readScale?, if_pos (by simpa using hc)]
    exact Integer.readExponent?_eq_some_iff.mpr hs

theorem readNumeral?_of_isDecimal {s ds : List Char} {e : Int} (h : IsDecimal s ds e) :
    readNumeral? s = some ⟨ds, e⟩ := by
  cases h with
  | @mk whole point fraction mark e hwhole hfraction hdigits hmark =>
    have hstop : (point ++ mark).head?.any Char.isDigit = false := by
      cases hfraction with
      | none => exact isDigit_head?_of_isScale hmark
      | point => rfl
    have hnonempty : ¬ (whole.isEmpty && fraction.isEmpty) = true := by
      simpa using hdigits
    rw [readNumeral?_eq, takeWhile_append_of_stop hwhole hstop,
      dropWhile_append_of_stop hwhole hstop, splitFraction_append hfraction hmark,
      readScale?_of_isScale hmark, if_neg hnonempty]
    rfl

/-- A number begins with a digit or with a point. -/
theorem exists_eq_cons_of_isDecimal {s ds : List Char} {e : Int} (h : IsDecimal s ds e) :
    ∃ c r, s = c :: r ∧ (c = '.' ∨ c.isDigit = true) := by
  cases h with
  | @mk whole point fraction mark e hwhole hfraction hdigits =>
    rcases whole with _ | ⟨c, whole⟩
    · cases hfraction with
      | none => exact absurd rfl hdigits
      | point => exact ⟨'.', _, rfl, .inl rfl⟩
    · exact ⟨c, _, rfl, .inr (hwhole c List.mem_cons_self)⟩

/-- What begins with a digit or with a point is read as a numeral. -/
theorem read?_eq_readNumeral? {c : Char} (hc : c = '.' ∨ c.isDigit = true) (r : List Char) :
    read? (c :: r) =
      (readNumeral? (c :: r)).map fun n => ofScaled (natOfDigits n.digits) n.exponent := by
  have hsign : readSign (c :: r) = (false, c :: r) := by
    unfold readSign
    split
    · next heq =>
      obtain ⟨rfl, -⟩ := List.cons_eq_cons.mp heq
      exact absurd hc (by decide)
    · next heq =>
      obtain ⟨rfl, -⟩ := List.cons_eq_cons.mp heq
      exact absurd hc (by decide)
    · rfl
  -- it begins neither with a sign nor as the names of infinity and of NaN do
  have hletters : c.toLower ≠ 'i' ∧ c.toLower ≠ 'n' := by
    rcases hc with rfl | hc
    · decide
    · exact forall_isDigit (P := fun c => c.toLower ≠ 'i' ∧ c.toLower ≠ 'n') (by decide) hc
  have hname (name : String) (d : Char) (hd : c.toLower ≠ d) :
      name.toList.head? = some d → String.ofList ((c :: r).map Char.toLower) ≠ name := by
    rintro hhead rfl
    rw [String.toList_ofList] at hhead
    exact hd (Option.some.inj hhead)
  unfold read?
  rw [hsign]
  simp only [Bool.false_eq_true, if_false, Option.map_id']
  split
  · next heq => exact absurd heq (hname _ 'i' hletters.1 rfl)
  · next heq => exact absurd heq (hname _ 'i' hletters.1 rfl)
  · next heq => exact absurd heq (hname _ 'n' hletters.2 rfl)
  · rfl

theorem read?_of_isDecimal {s ds : List Char} {e : Int} (h : IsDecimal s ds e) :
    read? s = some (ofScaled (Nat.ofDigitChars 10 ds 0) e) := by
  have hnumeral := readNumeral?_of_isDecimal h
  obtain ⟨c, r, rfl, hc⟩ := exists_eq_cons_of_isDecimal h
  rw [read?_eq_readNumeral? hc, hnumeral, Nat.ofDigitChars_eq_foldl]
  rfl

/-- A hexadecimal number is no decimal one. -/
theorem read?_of_isHexadecimal {s ds : List Char} (h : IsHexadecimal s ds) : read? s = none := by
  cases h with
  | @mk c _ hc =>
    have hnumeral : readNumeral? ('0' :: c :: ds) = none := by
      rcases hc with rfl | rfl <;> rfl
    rw [read?_eq_readNumeral? (.inr rfl), hnumeral]
    rfl

end Double

/-! ## Integers -/

namespace Value

/-- A number in the first of the types Int32, Int64 and UInt64 that holds it; it is a double if none
of them does. -/
inductive IsNarrowest (n : Nat) : Value → Prop where
  | int32 {w : Word .int32} (h : w.toInt = n) : IsNarrowest n (.integer .int32 w)
  | int64 {w : Word .int64} (h : w.toInt = n) (hwide : 2 ^ 31 ≤ n) :
      IsNarrowest n (.integer .int64 w)
  | uint64 {w : Word .uint64} (h : w.toInt = n) (hwide : 2 ^ 63 ≤ n) :
      IsNarrowest n (.integer .uint64 w)
  | double (hwide : 2 ^ 64 ≤ n) : IsNarrowest n (.double (Double.ofScaled n 0))

/-- What a type does not hold lies past its greatest number. -/
theorem greatest_lt_of_ofInt? {t : IntType} {n : Nat} (h : Word.ofInt? t n = none) :
    t.greatest < n := by
  have hfits : ¬ t.Fits n := by
    rw [← Word.ofInt?_isSome_iff, h]
    exact Bool.false_ne_true
  have hleast : t.least ≤ 0 := t.fits_zero.1
  have hgreatest : ¬ (n : Int) ≤ t.greatest := fun hle => hfits ⟨by omega, hle⟩
  omega

theorem isNarrowest_ofNat (n : Nat) : (ofNat n).IsNarrowest n := by
  have h32 : IntType.int32.greatest = 2 ^ 31 - 1 := by decide
  have h64 : IntType.int64.greatest = 2 ^ 63 - 1 := by decide
  have hu64 : IntType.uint64.greatest = 2 ^ 64 - 1 := by decide
  unfold ofNat
  split
  · next w hw => exact .int32 (Word.ofInt?_eq_some_iff.mp hw)
  · next w hnone hw =>
    have hwide := greatest_lt_of_ofInt? hnone
    exact .int64 (Word.ofInt?_eq_some_iff.mp hw) (by omega)
  · next w _ hnone hw =>
    have hwide := greatest_lt_of_ofInt? hnone
    exact .uint64 (Word.ofInt?_eq_some_iff.mp hw) (by omega)
  · next _ _ hnone =>
    have hwide := greatest_lt_of_ofInt? hnone
    exact .double (by omega)

/-- Past 64 bits there are only doubles. -/
theorem ofNat_of_wide {n : Nat} (h : 2 ^ 64 ≤ n) : ofNat n = .double (Double.ofScaled n 0) := by
  have hbound {t : IntType} (w : Word t) (hw : w.toInt = n) : False := by
    have hfits := w.fits.2
    cases t <;> simp only [IntType.greatest, IntType.isSigned, IntType.modulus_int32,
      IntType.modulus_int64, IntType.modulus_uint32, IntType.modulus_uint64] at hfits <;> omega
  have hnarrowest := isNarrowest_ofNat n
  generalize ofNat n = v at hnarrowest ⊢
  cases hnarrowest with
  | int32 hw | int64 hw | uint64 hw => exact (hbound _ hw).elim
  | double => rfl

end Value

namespace Syntax.Literal

theorem integer_value (text : String) :
    (integer text).value = required text "integer" (readInteger? text.toList) := rfl

theorem numeric_value (text : String) :
    (numeric text).value = required text "numeric" ((Double.read? text.toList).map .double) := rfl

theorem guid_value (text : String) :
    (guid text).value = required text "GUID" ((Guid.read? text.toList).map .guid) := rfl

/-- Digits are read as their number in its narrowest type, however many they are. -/
theorem readInteger?_of_digits {ds : List Char} (h : Integer.IsDigits ds) :
    readInteger? ds = some (.ofNat (Nat.ofDigitChars 10 ds 0)) := by
  have hnatural := Integer.readNatural?_of_digits h
  unfold readInteger? Integer.readUnsigned?
  rw [hnatural, Option.filter_some]
  by_cases hlt : Nat.ofDigitChars 10 ds 0 < twoTo 128
  · rw [if_pos (decide_eq_true hlt)]
  · -- the number is read again, as a double
    have hwide : 2 ^ 64 ≤ Nat.ofDigitChars 10 ds 0 := by
      have htwo : twoTo 128 = 2 ^ 128 := rfl
      omega
    have hdouble := Double.read?_of_isDecimal (isDecimal_of_isDigits h)
    rw [if_neg (by simpa using hlt)]
    dsimp only
    rw [hdouble, Value.ofNat_of_wide hwide]
    rfl

theorem dropPlus_of_isHexDigit {ds : List Char} (h : ∀ d ∈ ds, Guid.isHexDigit d = true) :
    Integer.dropPlus ds = ds := by
  unfold Integer.dropPlus
  split
  · exact absurd (h '+' List.mem_cons_self) (by decide)
  · rfl

theorem readNatural?_of_isHexadecimal {s ds : List Char} (h : IsHexadecimal s ds) :
    Integer.readNatural? s = some (Integer.natOfHex ds) := by
  cases h with
  | @mk c _ hc hds hhex =>
    have hmark : Integer.afterHexMark? ('0' :: c :: ds) = some ds := by
      rcases hc with rfl | rfl <;> rfl
    have hdigits : ¬ (ds.isEmpty || !ds.all Guid.isHexDigit) = true := by
      simpa [hds] using hhex
    unfold Integer.readNatural?
    rw [hmark]
    dsimp only
    rw [dropPlus_of_isHexDigit hhex, if_neg hdigits]

theorem readInteger?_of_isHexadecimal {s ds : List Char} (h : IsHexadecimal s ds) :
    readInteger? s =
      if Integer.natOfHex ds < 2 ^ 128 then some (.ofNat (Integer.natOfHex ds)) else none := by
  have htwo : twoTo 128 = 2 ^ 128 := rfl
  unfold readInteger? Integer.readUnsigned?
  rw [readNatural?_of_isHexadecimal h, Option.filter_some, htwo]
  by_cases hlt : Integer.natOfHex ds < 2 ^ 128
  · rw [if_pos (decide_eq_true hlt), if_pos hlt]
  · rw [if_neg (by simpa using hlt), if_neg hlt, Double.read?_of_isHexadecimal h]
    rfl

/-- The text of an integer in a base, and the number that it stands for. -/
inductive IsInteger : Nat → List Char → Nat → Prop where
  | decimal {ds : List Char} (h : Integer.IsDigits ds) : IsInteger 10 ds (Nat.ofDigitChars 10 ds 0)
  | hexadecimal {s ds : List Char} (h : IsHexadecimal s ds) : IsInteger 16 s (Integer.natOfHex ds)

/-- An integer has the narrowest type that holds it. Only one in hexadecimal of more than 128 bits
has no value. -/
theorem IsInteger.value {text : String} {base n : Nat} (h : IsInteger base text.toList n) :
    (base = 10 ∨ n < 2 ^ 128 → ∃ v, (integer text).value = .ok v ∧ v.IsNarrowest n) ∧
      (base = 16 → 2 ^ 128 ≤ n →
        (integer text).value = .error (.bind (.badLiteral text "integer"))) := by
  rw [integer_value]
  cases h with
  | decimal h =>
    rw [readInteger?_of_digits h]
    exact ⟨fun _ => ⟨_, rfl, Value.isNarrowest_ofNat _⟩, nofun⟩
  | hexadecimal h =>
    rw [readInteger?_of_isHexadecimal h]
    refine ⟨fun hnarrow => ?_, fun _ hwide => ?_⟩
    · rw [if_pos (hnarrow.resolve_left (by decide))]
      exact ⟨_, rfl, Value.isNarrowest_ofNat _⟩
    · rw [if_neg (Nat.not_lt.mpr hwide)]
      rfl

/-- The literals among the tokens of a text: a numeric one is a double, an identifier has its
digits, an integer has the narrowest type that holds it unless it is in hexadecimal and has more
than 128 bits. -/
theorem value_of_mem_tokens {input : String} {tokens : List Token} {finish : Text.Position}
    {t : Token} (h : tokenize input = .ok (tokens, finish)) (ht : t ∈ tokens) :
    (∀ text, t.kind = .numeric text → ∃ ds e, IsDecimal text.toList ds e ∧
      (numeric text).value = .ok (.double (Double.ofScaled (Nat.ofDigitChars 10 ds 0) e))) ∧
    (∀ text, t.kind = .guid text → ∃ g, (guid text).value = .ok (.guid g) ∧
      g.text.filter Guid.isHexDigit = (text.toList.filter Guid.isHexDigit).map Char.toLower) ∧
    ∀ text, t.kind = .integer text → ∃ base n, IsInteger base text.toList n ∧
      (base = 10 ∨ n < 2 ^ 128 → ∃ v, (integer text).value = .ok v ∧ v.IsNarrowest n) ∧
      (base = 16 → 2 ^ 128 ≤ n →
        (integer text).value = .error (.bind (.badLiteral text "integer"))) := by
  obtain ⟨rfl, -⟩ := tokenize_eq_ok_iff.mp h
  obtain ⟨c, r, length, hread⟩ := exists_readStart_of_mem ht
  refine ⟨fun text hkind => ?_, fun text hkind => ?_, fun text hkind => ?_⟩
  · rw [hkind] at hread
    cases isNumber_of_readStart hread (.inr ⟨text, rfl⟩) with
    | @decimal _ ds e hdecimal =>
      rw [numeric_value, Double.read?_of_isDecimal hdecimal]
      exact ⟨ds, e, hdecimal, rfl⟩
  · rw [hkind] at hread
    obtain ⟨n, hn, rfl⟩ := guidLength?_of_readStart hread
    obtain ⟨u, rest, hguid, hsplit, rfl, -⟩ := guidLength?_eq_some_iff.mp hn
    obtain ⟨g, hg, hdigits⟩ := Guid.exists_read?_of_isGuidText hguid
    rw [hsplit, List.take_left, guid_value, String.toList_ofList, hg]
    exact ⟨g, rfl, hdigits⟩
  · rw [hkind] at hread
    cases isNumber_of_readStart hread (.inl ⟨text, rfl⟩) with
    | digits hdigits => exact ⟨10, _, .decimal hdigits, (IsInteger.decimal hdigits).value⟩
    | hexadecimal hhex => exact ⟨16, _, .hexadecimal hhex, (IsInteger.hexadecimal hhex).value⟩

/-- What the greatest Int32 is followed by is an Int64. -/
theorem value_of_hexadecimal_token :
    tokenize "0x80000000" =
        .ok ([⟨.integer "0x80000000", "0x80000000", ⟨1, 1⟩⟩], ⟨1, 11⟩) ∧
      ∃ v, (integer "0x80000000").value = .ok v ∧ v.IsNarrowest (2 ^ 31) := by
  have htokens : tokenize "0x80000000" =
      .ok ([⟨.integer "0x80000000", "0x80000000", ⟨1, 1⟩⟩], ⟨1, 11⟩) := by decide +kernel
  refine ⟨htokens, ?_⟩
  obtain ⟨base, n, hinteger, hvalue, -⟩ :=
    (value_of_mem_tokens htokens List.mem_cons_self).2.2 "0x80000000" rfl
  generalize hs : "0x80000000".toList = s at hinteger
  cases hinteger with
  | decimal h => exact absurd (h.2 'x' (by rw [← hs]; decide)) (by decide)
  | hexadecimal h =>
    have hn : Integer.natOfHex ("0x80000000".toList.drop 2) = 2 ^ 31 := by decide +kernel
    rw [h.eq_drop, ← hs, hn] at hvalue
    exact hvalue (.inr (by decide))

/-- What 128 bits do not hold has no value in hexadecimal. -/
theorem value_of_wide_hexadecimal_token :
    tokenize "0x100000000000000000000000000000000" =
        .ok ([⟨.integer "0x100000000000000000000000000000000",
          "0x100000000000000000000000000000000", ⟨1, 1⟩⟩], ⟨1, 36⟩) ∧
      (integer "0x100000000000000000000000000000000").value =
        .error (.bind (.badLiteral "0x100000000000000000000000000000000" "integer")) := by
  have hchars : "0x100000000000000000000000000000000".toList =
      '0' :: 'x' :: '1' :: List.replicate 32 '0' := by decide
  have hhex : IsHexadecimal ('0' :: 'x' :: '1' :: List.replicate 32 '0')
      ('1' :: List.replicate 32 '0') :=
    .mk (.inl rfl) (by decide) (List.all_eq_true.mp (by decide))
  have hwide : ¬ Integer.natOfHex ('1' :: List.replicate 32 '0') < 2 ^ 128 := by decide +kernel
  refine ⟨by decide +kernel, ?_⟩
  rw [integer_value, hchars, readInteger?_of_isHexadecimal hhex, if_neg hwide]
  rfl

end Syntax.Literal

end RowFilter
