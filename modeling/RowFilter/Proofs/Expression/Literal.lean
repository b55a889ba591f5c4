import RowFilter.Binding.Literal
import RowFilter.Proofs.Binding.Compiled
import RowFilter.Proofs.Calendar.Reading
import RowFilter.Proofs.Token.Lexeme

/-!
Values that literals stand for are written as literals again: the text of such a value is one token,
and that token is a literal of the value.
-/

namespace RowFilter

open Syntax Token

namespace Value

/-- The kind of the token that a value is written as. -/
def kind : Value → Token.Kind
  | undefined => .keyword .NULL
  | boolean b => .keyword (if b then .TRUE else .FALSE)
  | integer _ n => .integer (String.ofList (text.intText n.toInt))
  | decimal d => .numeric (String.ofList d.text)
  | double x => .numeric (String.ofList (Double.text x))
  | string s => .string s
  | guid g => .guid (String.ofList g.text)
  | dateTime t => .dateTime (String.ofList t.text)

/-- Doubles, years of other than four digits and leap seconds are not always written as literals of
their own. -/
def IsLegible : Value → Prop
  | double _ => False
  | dateTime t => t.IsPlain
  | _ => True

/-- The text of a value is one token, and the token is a literal of the value. -/
structure IsWritten (v : Value) : Prop where
  lexeme : IsLexeme (Expression.literal v).toList v.kind
  literal : ∃ l, literal? v.kind = some l ∧ l.value = .ok v

end Value

namespace Value

/-- An integer of a literal is a natural number in its narrowest type. -/
theorem toInt_of_ofNat {n : Nat} {t : IntType} {w : Word t} (h : ofNat n = .integer t w) :
    w.toInt = n := by
  unfold ofNat at h
  split at h
  · next hw =>
    cases h
    rw [Word.ofInt?_eq_some_iff.mp hw]
  · next hw =>
    cases h
    rw [Word.ofInt?_eq_some_iff.mp hw]
  · next hw =>
    cases h
    rw [Word.ofInt?_eq_some_iff.mp hw]
  · cases h

theorem toInt_lt {t : IntType} (w : Word t) : w.toInt < 2 ^ 64 := by
  have hfits := w.fits.2
  cases t <;> simp only [IntType.greatest, IntType.isSigned, IntType.modulus_int32,
    IntType.modulus_int64, IntType.modulus_uint32, IntType.modulus_uint64] at hfits <;> omega

theorem isWritten_ofNat {n : Nat} (h : (ofNat n).IsLegible) : (ofNat n).IsWritten := by
  obtain ⟨t, w, hw⟩ : ∃ t w, ofNat n = .integer t w := by
    unfold ofNat at h ⊢
    split
    · exact ⟨_, _, rfl⟩
    · exact ⟨_, _, rfl⟩
    · exact ⟨_, _, rfl⟩
    · next h32 h64 hu64 =>
      rw [h32, h64, hu64] at h
      exact h.elim
  have hn := toInt_of_ofNat hw
  have hlt : n < twoTo 128 := by
    have hbound := toInt_lt w
    have htwo : twoTo 128 = 2 ^ 128 := rfl
    omega
  have hdigits : text.intText w.toInt = Nat.toDigits 10 n := by
    rw [hn, text.intText, if_neg (by omega), Int.natAbs_natCast]
  rw [hw]
  refine ⟨?_, .integer (String.ofList (Nat.toDigits 10 n)), ?_, ?_⟩
  · have htext : Expression.literal (.integer t w) = String.ofList (Nat.toDigits 10 n) :=
      congrArg String.ofList hdigits
    rw [htext, kind, hdigits, String.toList_ofList]
    exact isLexeme_integer n
  · rw [kind, hdigits]
    rfl
  · rw [Literal.value, String.toList_ofList, Literal.readInteger?,
      Integer.readUnsigned?_toDigits hlt, ← hw]
    rfl

theorem isWritten_of_value {l : Literal} {v : Value} (h : l.value = .ok v) (hv : v.IsLegible) :
    v.IsWritten := by
  cases l with
  | null =>
    cases h
    exact ⟨isLexeme_of_start (by decide) (by decide) (by decide) rfl, .null, rfl, rfl⟩
  | boolean b =>
    cases h
    cases b with
    | false =>
      exact ⟨isLexeme_of_start (by decide) (by decide) (by decide) rfl, .boolean false, rfl, rfl⟩
    | true =>
      exact ⟨isLexeme_of_start (by decide) (by decide) (by decide) rfl, .boolean true, rfl, rfl⟩
  | integer text =>
    have hread := required_eq_ok h
    unfold Literal.readInteger? at hread
    split at hread
    · next n _ =>
      cases hread
      exact isWritten_ofNat hv
    · obtain ⟨x, -, rfl⟩ := Option.map_eq_some_iff.mp hread
      exact hv.elim
  | numeric text =>
    obtain ⟨x, -, rfl⟩ := Option.map_eq_some_iff.mp (required_eq_ok h)
    exact hv.elim
  | guid text =>
    obtain ⟨g, -, rfl⟩ := Option.map_eq_some_iff.mp (required_eq_ok h)
    refine ⟨?_, .guid (String.ofList g.text), rfl, ?_⟩
    · have htext : (Expression.literal (.guid g)).toList = g.text := String.toList_ofList
      rw [htext]
      exact isLexeme_guid g.isHyphenated_text
    · rw [Literal.value, String.toList_ofList, g.read?_text]
      rfl
  | dateTime text =>
    obtain ⟨t, -, rfl⟩ := Option.map_eq_some_iff.mp (required_eq_ok h)
    refine ⟨?_, .dateTime (String.ofList t.text), rfl, ?_⟩
    · have htext : (Expression.literal (.dateTime t)).toList = '#' :: (t.text ++ ['#']) := by
        simp [Expression.literal, toString]
      rw [htext]
      exact isLexeme_dateTime (Calendar.DateTime.hash_notMem_text hv)
    · rw [Literal.value, String.toList_ofList, Calendar.DateTime.read?_text hv]
      rfl
  | string text | measurementKey text | pointTag text =>
    cases h
    exact ⟨isLexeme_quote text, .string text, rfl, rfl⟩

end Value

end RowFilter
