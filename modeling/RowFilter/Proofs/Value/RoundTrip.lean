import RowFilter.Proofs.Calendar.Reading
import RowFilter.Proofs.Number.DecimalText
import RowFilter.Proofs.Token.Guid
import RowFilter.Proofs.Value.Conversion

/-!
Conversion to text and back. The text of a value is read back as the value, blanks around it or not;
a decimal may come back with other units, but as the same number.
-/

namespace RowFilter.Value

/-- The values that are read back from their text. The scale of a decimal is a number of 64 bits, and
times are those of years of four digits without the leap seconds. -/
def IsWritable : Value → Prop
  | boolean _ | integer _ _ | guid _ => True
  | decimal d => Decimal.scaleFits d.scale = true
  | dateTime t => t.IsPlain
  | undefined | double _ | string _ => False

/-- Equal, or decimals of one number. -/
inductive SameAs : Value → Value → Prop where
  | refl (v : Value) : SameAs v v
  | decimal {d e : Decimal} (h : d.value = e.value) : SameAs (decimal d) (decimal e)

theorem IsWritable.valueType_ne {v : Value} (hv : v.IsWritable) :
    v.valueType ≠ .string ∧ v.valueType ≠ .undefined := by
  cases v with
  | boolean | integer | decimal | guid | dateTime => exact ⟨nofun, nofun⟩
  | undefined | double | string => exact hv.elim

theorem isNumeral_intText (n : ℤ) : Integer.IsNumeral (text.intText n) n := by
  have hdigits := Integer.isDigits_toDigits n.natAbs
  rw [text.intText]
  split
  · next hneg =>
    have hminus := Integer.IsNumeral.minus hdigits
    rwa [Nat.ofDigitChars_ten_toDigits, Int.ofNat_natAbs_of_nonpos hneg.le, neg_neg] at hminus
  · next hneg =>
    have hunsigned := Integer.IsNumeral.unsigned hdigits
    rwa [Nat.ofDigitChars_ten_toDigits, Int.natAbs_of_nonneg (not_lt.mp hneg)] at hunsigned

/-- No blanks stand at the ends of a text. -/
theorem trim_text {v : Value} (hv : v.IsWritable) : Text.trim v.text.toList = v.text.toList := by
  cases v with
  | boolean b => cases b <;> decide
  | integer t n =>
    rw [text, String.toList_ofList]
    exact Text.trim_of_forall_not_blank (isNumeral_intText n.toInt).forall_not_blank
  | decimal d =>
    rw [text, String.toList_ofList]
    exact Text.trim_of_forall_not_blank (Decimal.text_not_blank hv)
  | guid g =>
    obtain ⟨x, m, y, htext, hx, hy⟩ := g.isHyphenated_text.ends
    rw [text, String.toList_ofList, htext]
    exact Guid.strip_of_ends m (Guid.isBlank_of_isHexDigit hx) (Guid.isBlank_of_isHexDigit hy)
  | dateTime t =>
    rw [text, String.toList_ofList]
    exact Calendar.DateTime.trim_text hv
  | undefined | double | string => exact hv.elim

/-- Each type reads the texts that it writes. -/
theorem exists_read?_text {v : Value} (hv : v.IsWritable) :
    ∃ w, read? v.text.toList v.valueType = some w ∧ w.SameAs v := by
  cases v with
  | boolean b => exact ⟨boolean b, by cases b <;> decide, .refl _⟩
  | integer t n =>
    refine ⟨integer t n, ?_, .refl _⟩
    rw [text, String.toList_ofList]
    exact read?_integer_eq_some_iff.mpr ⟨n.toInt, n.fits, isNumeral_intText n.toInt, rfl⟩
  | decimal d =>
    obtain ⟨e, hread, he⟩ := Decimal.exists_read?_text hv
    refine ⟨decimal e, ?_, .decimal he⟩
    rw [text, String.toList_ofList, valueType, read?, hread]
    rfl
  | guid g =>
    refine ⟨guid g, ?_, .refl _⟩
    rw [text, String.toList_ofList, valueType, read?, g.read?_text]
    rfl
  | dateTime t =>
    refine ⟨dateTime t, ?_, .refl _⟩
    rw [text, String.toList_ofList, valueType, read?, Calendar.DateTime.read?_text hv]
    rfl
  | undefined | double | string => exact hv.elim

/-- Conversion to text and back loses nothing, whatever blanks are put around the text. -/
theorem convert_text_and_back {v : Value} (hv : v.IsWritable) :
    ∃ s : String, v.convert .string = .ok (string s) ∧
      ∀ front back : List Char, Text.AreBlanks front → Text.AreBlanks back →
        ∃ w, (string (String.ofList (front ++ (s.toList ++ back)))).convert v.valueType = .ok w ∧
          w.SameAs v := by
  have htext : v.convert .string = .ok (string v.text) := by
    cases v with
    | boolean | integer | decimal | guid | dateTime => rfl
    | undefined | double | string => exact hv.elim
  refine ⟨v.text, htext, fun front back hfront hback => ?_⟩
  obtain ⟨hstring, hundefined⟩ := hv.valueType_ne
  obtain ⟨w, hread, hw⟩ := exists_read?_text hv
  refine ⟨w, ?_, hw⟩
  -- trimming takes the blanks away again, and nothing of the text
  rw [convert_string hstring hundefined, String.toList_ofList, Text.trim_append hfront hback,
    trim_text hv, hread]

/-- A very small decimal is written with an exponent, `-1.25E-7`. -/
theorem convert_text_and_back_tiny :
    (decimal ⟨-125, 9⟩).IsWritable ∧ Text.AreBlanks [' '] ∧ Text.AreBlanks ['\t'] ∧
      ∃ (s : String) (w : Value), (decimal ⟨-125, 9⟩).convert .string = .ok (string s) ∧
        (string (String.ofList ([' '] ++ (s.toList ++ ['\t'])))).convert .decimal = .ok w ∧
          w.SameAs (decimal ⟨-125, 9⟩) := by
  have hscale : (decimal ⟨-125, 9⟩).IsWritable := show Decimal.scaleFits 9 = true by decide
  have hspace : Text.AreBlanks [' '] := List.forall_mem_singleton.mpr (by decide)
  have htab : Text.AreBlanks ['\t'] := List.forall_mem_singleton.mpr (by decide)
  obtain ⟨s, hs, hback⟩ := convert_text_and_back hscale
  obtain ⟨w, hw, hsame⟩ := hback [' '] ['\t'] hspace htab
  exact ⟨hscale, hspace, htab, s, w, hs, hw, hsame⟩

/-- Zeros that the scale implies are written out, so that they come back as units. -/
example : (string (decimal ⟨12, -3⟩).text).convert .decimal = .ok (decimal ⟨12000, 0⟩) := by
  decide +kernel

end RowFilter.Value
