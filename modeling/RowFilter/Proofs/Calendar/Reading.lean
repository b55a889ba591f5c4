import RowFilter.Calendar.Text
import RowFilter.Proofs.Number.Digits

/-!
Dates and times are read back from their text: the first layout fits it, field by field.
-/

namespace RowFilter.Calendar

/-! ## A number in a field of a fixed width -/

theorem length_padded {width n : Nat} (hwidth : 0 < width) (h : n < 10 ^ width) :
    (padded width n).length = width := by
  have hle := (Nat.length_toDigits_le_iff (by decide) hwidth).mpr h
  rw [padded, List.length_append, List.length_replicate]
  omega

theorem isDigit_padded {width n : Nat} : ∀ c ∈ padded width n, c.isDigit = true := by
  intro c hc
  rcases List.mem_append.mp hc with hc | hc
  · rw [List.eq_of_mem_replicate hc]
    rfl
  · exact isDigit_toDigits c hc

theorem padded_ne_nil (width n : Nat) : padded width n ≠ [] :=
  List.append_ne_nil_of_right_ne_nil _ Nat.toDigits_ne_nil

theorem natOfDigits_padded (width n : Nat) : Double.natOfDigits (padded width n) = n := by
  rw [padded, Double.natOfDigits_zeros, Double.natOfDigits_toDigits]

theorem exists_padded_eq_cons (width n : Nat) :
    ∃ c ds, padded width n = c :: ds ∧ c.isDigit = true := by
  obtain ⟨c, ds, h⟩ := List.exists_cons_of_ne_nil (padded_ne_nil width n)
  exact ⟨c, ds, h, isDigit_padded c (by rw [h]; exact List.mem_cons_self)⟩

/-- Digits have no blanks before them. -/
theorem trimLeft_padded (width n : Nat) (rest : List Char) :
    Text.trimLeft (padded width n ++ rest) = padded width n ++ rest := by
  obtain ⟨c, ds, h, hc⟩ := exists_padded_eq_cons width n
  rw [h, List.cons_append, Text.trimLeft, List.dropWhile_cons_of_neg]
  rw [isBlank_of_isDigit hc]
  exact Bool.false_ne_true

theorem trimRight_padded (front : List Char) (width n : Nat) :
    Text.trimRight (front ++ padded width n) = front ++ padded width n := by
  rcases List.eq_nil_or_concat (padded width n) with hnil | ⟨ds, c, h⟩
  · exact absurd hnil (padded_ne_nil width n)
  · have hc : c.isDigit = true := isDigit_padded c (by rw [h]; simp)
    rw [h, List.concat_eq_append, ← List.append_assoc, Text.trimRight, List.reverse_concat,
      List.dropWhile_cons_of_neg, List.reverse_cons, List.reverse_reverse]
    rw [isBlank_of_isDigit hc]
    exact Bool.false_ne_true

theorem trimLeft_space (s : List Char) : Text.trimLeft (' ' :: s) = Text.trimLeft s := rfl

theorem readNumber?_padded {width n : Nat} (hwidth : 0 < width) (h : n < 10 ^ width)
    (rest : List Char) : readNumber? width (padded width n ++ rest) = some (n, rest) := by
  have hlength := length_padded hwidth h
  -- the digits are as many as the field is wide, so what follows is not looked at
  have htake : (padded width n ++ rest).take width = padded width n := by
    exact List.take_left' hlength
  have hne : (padded width n).isEmpty = false :=
    List.isEmpty_eq_false_iff.mpr (padded_ne_nil width n)
  rw [readNumber?, htake, takeWhile_isDigit isDigit_padded]
  simp only [hne, Bool.false_eq_true, if_false, natOfDigits_padded, List.drop_left]

/-- A year of four digits has no sign. -/
theorem readYear?_padded {n : Nat} (h : n < 10 ^ 4) (rest : List Char) :
    readYear? (padded 4 n ++ rest) = some ((n : Int), rest) := by
  have hread := readNumber?_padded (by decide) h rest
  obtain ⟨c, ds, hds, hc⟩ := exists_padded_eq_cons 4 n
  rw [hds, List.cons_append] at hread ⊢
  unfold readYear?
  split
  · next heq =>
    rw [(List.cons_eq_cons.mp heq).1] at hc
    cases hc
  · next heq =>
    rw [(List.cons_eq_cons.mp heq).1] at hc
    cases hc
  · rw [hread]
    rfl

theorem readNanos?_padded {width n : Nat} (hwidth : 0 < width) (hnine : width ≤ 9)
    (h : n < 10 ^ width) :
    readNanos? (padded width n) = some (n * tenTo (9 - width), []) := by
  have hlength := length_padded hwidth h
  have htake : (padded width n).take 9 = padded width n :=
    List.take_of_length_le (by omega)
  have hne : (padded width n).isEmpty = false :=
    List.isEmpty_eq_false_iff.mpr (padded_ne_nil width n)
  rw [readNanos?, takeWhile_isDigit isDigit_padded]
  simp only [hne, Bool.false_eq_true, if_false, htake, natOfDigits_padded, hlength,
    List.drop_of_length_le (Nat.le_of_eq hlength)]

/-! ## Fields -/

theorem fractionText_eq (nano : Nat) :
    fractionText nano = [] ∨ ∃ width n, fractionText nano = '.' :: padded width n := by
  unfold fractionText
  split
  · exact .inl rfl
  · right
    split
    · exact ⟨_, _, rfl⟩
    · split <;> exact ⟨_, _, rfl⟩

/-- Fractions of a second lose nothing by the zeros that are left out at their end. -/
theorem read?_fractionText {nano : Nat} (h : nano < 1000000000) (f : Fields) (hf : f.nano = 0) :
    Piece.read? f (fractionText nano) .fraction = some ({ f with nano := nano }, []) := by
  have hread {width n : Nat} (hwidth : 0 < width) (hnine : width ≤ 9) (hn : n < 10 ^ width)
      (hnano : n * tenTo (9 - width) = nano) :
      Piece.read? f ('.' :: padded width n) .fraction = some ({ f with nano := nano }, []) := by
    show (readNanos? (padded width n)).map _ = _
    rw [readNanos?_padded hwidth hnine hn, hnano]
    rfl
  unfold fractionText
  split
  · next hzero =>
    subst hzero
    obtain ⟨year, month, day, hour, minute, second, nano⟩ := f
    cases hf
    rfl
  · split
    · exact hread (by decide) (by decide) (by omega) (show _ * 1000000 = nano by omega)
    · split
      · exact hread (by decide) (by decide) (by omega) (show _ * 1000 = nano by omega)
      · exact hread (by decide) (by decide) (by omega) (Nat.mul_one nano)

/-! ## Dates and times -/

/-- A time that is written as a day and a time of day of a year of four digits. -/
structure DateTime.IsPlain (t : DateTime) : Prop where
  year : 0 ≤ t.date.year ∧ t.date.year ≤ 9999
  nano : t.nano < 1000000000

namespace DateTime

/-- The numbers in the text of a time. -/
def fields (t : DateTime) : Fields where
  year := t.date.year
  month := t.date.month
  day := t.date.day
  hour := t.second / 3600
  minute := t.second / 60 % 60
  second := t.second % 60
  nano := t.nano

theorem toDateTime?_fields (t : DateTime) : t.fields.toDateTime? = some t := by
  obtain ⟨⟨year, month, day, hdate⟩, second, nano, hvalid⟩ := t
  have hsecond := hvalid.1
  have hranges : second / 3600 < 24 ∧ second / 60 % 60 < 60 ∧ second % 60 ≤ 60 := by omega
  have hleap : ¬ second % 60 = 60 := by omega
  have hseconds : second / 3600 * 3600 + second / 60 % 60 * 60 + second % 60 = second := by omega
  rw [fields, Fields.toDateTime?]
  dsimp only
  rw [if_pos hranges]
  simp only [hleap, if_false, Date.of?, dif_pos hdate, Option.bind_some, hseconds, of?,
    dif_pos hvalid]

theorem text_eq {t : DateTime} (h : t.IsPlain) :
    t.text = padded 4 t.date.year.toNat ++ '-' :: (padded 2 t.date.month ++ '-' ::
      (padded 2 t.date.day ++ ' ' :: (padded 2 (t.second / 3600) ++ ':' ::
        (padded 2 (t.second / 60 % 60) ++ ':' ::
          (padded 2 (t.second % 60) ++ fractionText t.nano))))) := by
  have hsecond : t.second % 60 + t.nano / 1000000000 = t.second % 60 := by
    rw [Nat.div_eq_of_lt h.nano, Nat.add_zero]
  rw [text, textWith, timeText, Date.text, yearText, if_pos h.year, hsecond,
    Nat.mod_eq_of_lt h.nano]
  simp only [List.append_assoc, List.cons_append]

theorem daysInMonth_le (year : Int) (month : Nat) : daysInMonth year month ≤ 31 := by
  unfold daysInMonth
  split
  · split <;> decide
  all_goals decide

theorem readAll?_text {t : DateTime} (h : t.IsPlain) :
    Piece.readAll? (Piece.isoDate ++ .blanks :: Piece.fullTime) {} t.text =
      some (t.fields, []) := by
  have hyear : t.date.year.toNat < 10 ^ 4 := by have := h.year; omega
  obtain ⟨-, hmonth, hday⟩ := t.date.valid
  have hmonth : t.date.month < 10 ^ 2 := by omega
  have hday : t.date.day < 10 ^ 2 := by
    have hmost := daysInMonth_le t.date.year t.date.month
    omega
  have hhour : t.second / 3600 < 10 ^ 2 := by have := t.valid; omega
  have hminute : t.second / 60 % 60 < 10 ^ 2 := by omega
  have hsecond : t.second % 60 < 10 ^ 2 := by omega
  have hnumber {n : Nat} (hn : n < 10 ^ 2) (rest : List Char) :
      readNumber? 2 (padded 2 n ++ rest) = some (n, rest) :=
    readNumber?_padded (by decide) hn rest
  rw [text_eq h]
  simp only [Piece.isoDate, Piece.fullTime, List.cons_append, List.nil_append, Piece.readAll?,
    Piece.read?, trimLeft_padded, readYear?_padded hyear, hnumber hmonth, hnumber hday,
    trimLeft_space, hnumber hhour, hnumber hminute, hnumber hsecond, Option.map_some,
    Option.bind_some, if_true]
  -- the fraction comes last, if there is one
  rw [Int.toNat_of_nonneg h.year.1]
  have hfraction := read?_fractionText h.nano { t.fields with nano := 0 } rfl
  exact congrArg (fun x => x.bind fun p => some (p.1, p.2)) hfraction

theorem trim_text {t : DateTime} (h : t.IsPlain) : Text.trim t.text = t.text := by
  have hleft : Text.trimLeft t.text = t.text := by
    rw [text_eq h]
    exact trimLeft_padded _ _ _
  obtain ⟨front, hsplit⟩ :
      ∃ front, t.text = front ++ (padded 2 (t.second % 60) ++ fractionText t.nano) := by
    refine ⟨padded 4 t.date.year.toNat ++ '-' :: (padded 2 t.date.month ++ '-' ::
      (padded 2 t.date.day ++ ' ' :: (padded 2 (t.second / 3600) ++ ':' ::
        (padded 2 (t.second / 60 % 60) ++ [':'])))), ?_⟩
    rw [text_eq h]
    simp
  -- the last digits are those of the fraction, or else those of the second
  obtain ⟨front, width, n, hback⟩ : ∃ front width n, t.text = front ++ padded width n := by
    rcases fractionText_eq t.nano with hnone | ⟨width, n, hsome⟩
    · exact ⟨front, 2, t.second % 60, by rw [hsplit, hnone, List.append_nil]⟩
    · exact ⟨front ++ (padded 2 (t.second % 60) ++ ['.']), width, n, by simp [hsplit, hsome]⟩
  rw [Text.trim, hleft, hback, trimRight_padded]

theorem hash_notMem_text {t : DateTime} (h : t.IsPlain) : '#' ∉ t.text := by
  have hpadded (width n : Nat) : '#' ∉ padded width n :=
    fun hmem => absurd (isDigit_padded _ hmem) (by decide)
  rw [text_eq h]
  rcases fractionText_eq t.nano with hnone | ⟨width, n, hsome⟩
  · simp [hnone, hpadded]
  · simp [hsome, hpadded]

/-- A time of a year of four digits that is no leap second is read back from its text. -/
theorem read?_text {t : DateTime} (h : t.IsPlain) : read? t.text = some t := by
  have hlayout : readLayout? t.text (Piece.isoDate ++ .blanks :: Piece.fullTime) = some t := by
    rw [readLayout?, readAll?_text h]
    exact toDateTime?_fields t
  rw [read?, trim_text h, layouts, List.findSome?_cons, hlayout]
  rfl

end DateTime

end RowFilter.Calendar
