import Mathlib.Algebra.Order.Ring.Int
import Mathlib.Tactic.Ring
import RowFilter.Calendar.Interval

/-!
Moments as whole numbers of nanoseconds. Adding to a time adds to this number, and the time that has
passed between two times is the difference of their numbers, as long as there is no leap second. So
the count of intervals between a time and the one some intervals later is that many.
-/

namespace RowFilter.Calendar

/-! ## Days -/

theorem daysBeforeMonth_succ (year : ℤ) {month : ℕ} (h : 1 ≤ month) :
    daysBeforeMonth year (month + 1) = daysBeforeMonth year month + daysInMonth year month := by
  obtain ⟨month, rfl⟩ := Nat.exists_eq_add_of_le' h
  rfl

namespace Date

/-- The month and the day that are found make up the ordinal that is looked for. -/
theorem daysBeforeMonth_monthOfOrdinal (year : ℤ) {month : ℕ} (h : 1 ≤ month) (ordinal rest : ℕ) :
    daysBeforeMonth year (monthOfOrdinal year month ordinal rest).1 +
      (monthOfOrdinal year month ordinal rest).2 = daysBeforeMonth year month + ordinal := by
  induction rest generalizing month ordinal with
  | zero => rfl
  | succ rest ih =>
    rw [monthOfOrdinal]
    split
    · rfl
    · rw [ih (Nat.le_succ_of_le h), daysBeforeMonth_succ year h]
      omega

theorem eq_of_of? {year : ℤ} {month day : ℕ} {d : Date} (h : of? year month day = some d) :
    d.year = year ∧ d.month = month ∧ d.day = day := by
  rw [of?] at h
  split at h
  · obtain rfl := Option.some.inj h
    exact ⟨rfl, rfl, rfl⟩
  · cases h

/-- The date of a day number has this number. -/
theorem dayNumber_of_ofDayNumber? {n : ℤ} {d : Date} (h : ofDayNumber? n = some d) :
    d.dayNumber = n := by
  have hordinal := daysBeforeMonth_monthOfOrdinal (yearOfDay n) le_rfl
    (n - daysBeforeYear (yearOfDay n)).toNat 11
  have hfirst : daysBeforeMonth (yearOfDay n) 1 = 0 := rfl
  rw [ofDayNumber?] at h
  dsimp only at h
  generalize monthOfOrdinal (yearOfDay n) 1 (n - daysBeforeYear (yearOfDay n)).toNat 11 = found
    at h hordinal
  obtain ⟨hyear, hmonth, hday⟩ := eq_of_of? h
  rw [← hmonth, ← hday, hfirst] at hordinal
  -- the ordinal is not zero, since there is no day zero
  have hpositive := d.valid.2.2.1
  rw [dayNumber, ordinal, hyear]
  omega

theorem dayNumber_of_addDays? {d d' : Date} {days : ℤ} (h : d.addDays? days = some d') :
    d'.dayNumber = d.dayNumber + days := dayNumber_of_ofDayNumber? h

/-- A number of months later the months of the calendar are that many more, and the day is the same
or else the last one of its month. -/
theorem monthNumber_of_addMonths? {d d' : Date} {months : ℤ} (h : d.addMonths? months = some d') :
    Interval.monthNumber d' = Interval.monthNumber d + months ∧
      d'.day = min d.day (daysInMonth d'.year d'.month) := by
  obtain ⟨hyear, hmonth, hday⟩ := eq_of_of? h
  have hfirst := d.valid.2.1
  rw [← hyear, ← hmonth] at hday
  refine ⟨?_, hday⟩
  rw [Interval.monthNumber, Interval.monthNumber]
  omega

end Date

/-! ## Moments -/

namespace DateTime

/-- Nanoseconds since the day zero, if no second is a leap second. -/
def moment (t : DateTime) : ℤ :=
  (t.date.dayNumber * secondsPerDay + t.second) * nanosPerSecond + t.nano

theorem eq_of_of? {date : Date} {second nano : ℕ} {t : DateTime}
    (h : of? date second nano = some t) : t.date = date ∧ t.second = second ∧ t.nano = nano := by
  rw [of?] at h
  split at h
  · obtain rfl := Option.some.inj h
    exact ⟨rfl, rfl, rfl⟩
  · cases h

variable {a b t t' : DateTime}

/-- Outside of leap seconds a shift moves the moment by as much, and to no leap second. -/
theorem moment_of_shift? {seconds nanos : ℤ} (hleap : t.isLeapSecond = false)
    (h : t.shift? seconds nanos = some t') :
    t'.moment = t.moment + (seconds * nanosPerSecond + nanos) ∧ t'.isLeapSecond = false := by
  have hplain : ¬ nanosPerSecond ≤ (t.nano : ℤ) := by
    have hnano : ¬ 1000000000 ≤ t.nano := of_decide_eq_false hleap
    rw [nanosPerSecond]
    omega
  rw [shift?] at h
  simp only [hplain, false_and, if_false] at h
  split at h
  · next date hdate =>
    obtain ⟨rfl, hsecond, hnano⟩ := eq_of_of? h
    have hday := Date.dayNumber_of_addDays? hdate
    rw [moment, moment, hday, isLeapSecond, decide_eq_false_iff_not]
    simp only [secondsPerDay, nanosPerSecond] at *
    omega
  · cases h

theorem moment_of_addNanos? {nanos : ℤ} (hleap : t.isLeapSecond = false)
    (h : t.addNanos? nanos = some t') :
    t'.moment = t.moment + nanos ∧ t'.isLeapSecond = false := by
  obtain ⟨hmoment, hleap'⟩ := moment_of_shift? hleap h
  rw [mul_comm, Int.mul_tdiv_add_tmod] at hmoment
  exact ⟨hmoment, hleap'⟩

/-- By the calendar the time of day stays, and the day or the last one of a shorter month. -/
theorem day_of_addMonths? {months : ℤ} (h : t.addMonths? months = some t') :
    t'.date.day = min t.date.day (daysInMonth t'.date.year t'.date.month) ∧
      t'.second = t.second ∧ t'.nano = t.nano := by
  obtain ⟨date, hdate, rfl⟩ := Option.map_eq_some_iff.mp h
  exact ⟨(Date.monthNumber_of_addMonths? hdate).2, rfl, rfl⟩

/-- What passes between two times that are no leap seconds. -/
theorem nanosBetween_eq (ha : a.isLeapSecond = false) (hb : b.isLeapSecond = false) :
    a.nanosBetween b = b.moment - a.moment := by
  simp only [nanosBetween, ha, hb, Bool.false_eq_true, and_false, if_false]
  rw [moment, moment]
  ring

end DateTime

/-! ## Intervals -/

namespace Interval

variable {i : Interval} {t t' : DateTime} {amount count : ℤ}

/-- By the calendar, intervals are counted by their months or years. -/
theorem between_of_months (hi : i.measure = .months count)
    (h : t.addMonths? (amount * count) = some t') :
    i.between t t' = amount ∧ i.between t' t = -amount := by
  obtain ⟨date, hdate, rfl⟩ := Option.map_eq_some_iff.mp h
  obtain ⟨hnumber, -⟩ := Date.monthNumber_of_addMonths? hdate
  have hmonth := t.date.valid.2.1
  have hmonth' := date.valid.2.1
  cases i with
  | year =>
    obtain rfl := Measure.months.inj hi
    rw [monthNumber, monthNumber] at hnumber
    simp only [between]
    omega
  | month =>
    obtain rfl := Measure.months.inj hi
    simp only [between]
    omega
  | _ => cases hi

/-- By the clock, they are counted by the time that passes. -/
theorem between_of_nanos (hi : i.measure = .nanos count) (a b : DateTime) :
    i.between a b = (a.nanosBetween b).tdiv count := by
  cases i with
  | year | month => cases hi
  | _ => obtain rfl := Measure.nanos.inj hi; rfl

theorem ne_zero_of_nanos (hi : i.measure = .nanos count) : count ≠ 0 := by
  cases i with
  | year | month => cases hi
  | _ => obtain rfl := Measure.nanos.inj hi; decide

/-- Between a time and the one some intervals later there are that many intervals, and minus as many
the other way. -/
theorem between_of_add? (hleap : t.isLeapSecond = false) (h : i.add? t amount = some t') :
    i.between t t' = amount ∧ i.between t' t = -amount := by
  rw [add?] at h
  cases hi : i.measure with
  | months count =>
    rw [hi] at h
    exact between_of_months hi h
  | nanos count =>
    rw [hi] at h
    obtain ⟨hmoment, hleap'⟩ := DateTime.moment_of_addNanos? hleap h
    have hcount := ne_zero_of_nanos hi
    have hlater : t.nanosBetween t' = amount * count := by
      rw [DateTime.nanosBetween_eq hleap hleap', hmoment, add_sub_cancel_left]
    have hearlier : t'.nanosBetween t = -amount * count := by
      rw [DateTime.nanosBetween_eq hleap' hleap, hmoment, sub_add_cancel_left, neg_mul]
    rw [between_of_nanos hi, between_of_nanos hi, hlater, hearlier, Int.mul_tdiv_cancel _ hcount,
      Int.mul_tdiv_cancel _ hcount]
    exact ⟨rfl, rfl⟩

end Interval

end RowFilter.Calendar
