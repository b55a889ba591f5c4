import RowFilter.Proofs.Calendar.Week
import RowFilter.Proofs.Evaluation.DateCall

/-!
Calls of DATEPART. Every part of a time is an Int32, so that DATEPART returns the part itself. The
week that it returns counts the Sundays of the year after January 1.
-/

namespace RowFilter

open Calendar (Date DateTime Interval)

namespace Calendar

/-- The parts of a time are in the range of Int32. -/
theorem Interval.fits_part (i : Interval) (t : DateTime) : IntType.int32.Fits (i.part t) := by
  have hleast : IntType.int32.least = -2147483648 := by decide
  have hgreatest : IntType.int32.greatest = 2147483647 := by decide
  obtain ⟨⟨hyear, hyear'⟩, ⟨-, hmonth⟩, -⟩ := t.date.valid
  obtain ⟨hsecond, hnano⟩ := t.valid
  have hordinal := t.date.ordinal_le_daysInYear
  have hdays : daysInYear t.date.year ≤ 366 := by unfold daysInYear; split <;> decide
  have hordinal' : t.date.day ≤ t.date.ordinal := Nat.le_add_left _ _
  rw [leastYear] at hyear
  rw [greatestYear] at hyear'
  rw [IntType.Fits, hleast, hgreatest]
  cases i <;> simp only [part, Date.week, Date.weekday] <;> omega

end Calendar

variable {t : DateTime} {name : String} {v : Value} {i : Interval} {n : ℤ}

namespace Call

theorem datePart_eq_ok_iff {c : Call} (htime : c.argument 0 = .dateTime t)
    (hname : c.argument 1 = .string name) :
    c.datePart = .ok v ↔ ∃ i, Interval.read? name = some i ∧ v = .int32 (i.part t) := by
  rw [datePart, dateTime?_of_argument htime, ok_bind]
  simp only [bind_eq_ok_iff, interval_eq_ok_iff hname]
  refine exists_congr fun i => and_congr_right fun _ => ?_
  rw [pure_eq_ok, Except.ok.injEq, eq_comm]

end Call

namespace Function

theorem returns_datePart_iff : datePart.Returns [.dateTime t, .string name] v ↔
    ∃ i, Interval.read? name = some i ∧ v = .int32 (i.part t) := by
  have houtcome : datePart.Returns [.dateTime t, .string name] v ↔
      (Call.mk datePart [.dateTime t, .string name]).datePart = .ok v :=
    returns_iff_of_value rfl rfl fun _ => rfl
  exact houtcome.trans (Call.datePart_eq_ok_iff rfl rfl)

/-- DATEPART returns the number `n` for the part of a time that goes by a name. -/
def GivesPart (t : DateTime) (name : String) (n : ℤ) : Prop :=
  ∃ word : Word .int32, word.toInt = n ∧
    datePart.Returns [.dateTime t, .string name] (.integer .int32 word)

theorem givesPart_iff (hname : Interval.read? name = some i) :
    GivesPart t name n ↔ i.part t = n := by
  have hreturns : datePart.Returns [.dateTime t, .string name] (.int32 (i.part t)) :=
    returns_datePart_iff.mpr ⟨i, hname, rfl⟩
  have hpart : (Word.wrap .int32 (i.part t)).toInt = i.part t :=
    IntType.reduce_of_fits (i.fits_part t)
  constructor
  · rintro ⟨word, rfl, hword⟩
    obtain rfl := (Value.integer.inj (hreturns.unique hword)).2
    exact hpart.symm
  · rintro rfl
    exact ⟨_, hpart, hreturns⟩

theorem givesPart_week_iff : GivesPart t "Week" n ↔ (t.date.week : ℤ) = n :=
  givesPart_iff (i := .week) (by decide +kernel)

theorem givesPart_weekday_iff : GivesPart t "WeekDay" n ↔ (t.date.weekday : ℤ) + 1 = n :=
  givesPart_iff (i := .weekday) (by decide +kernel)

/-- The week that DATEPART returns is one more than the number of Sundays after January 1 of the
year up to the day. So it is 1 on January 1, and from a day to the next one of the year it grows by
one if this is a Sunday and stays the same otherwise. The weekdays themselves go round from each day
to the next, also over the end of a year. -/
theorem week_counts_sundays (t : DateTime) :
    t.date.sundays.Finite ∧ GivesPart t "Week" (1 + t.date.sundays.ncard) ∧
      (t.date = t.date.januaryFirst → GivesPart t "Week" 1) ∧
      ∀ t' : DateTime, t.date.Next t'.date →
        (∀ n, GivesPart t "WeekDay" n → GivesPart t' "WeekDay" (n % 7 + 1)) ∧
        (t'.date.year = t.date.year → ∀ n, GivesPart t "Week" n →
          (GivesPart t' "WeekDay" 1 → GivesPart t' "Week" (n + 1)) ∧
          (¬ GivesPart t' "WeekDay" 1 → GivesPart t' "Week" n)) := by
  -- what DATEPART returns is said of the date alone from here on
  simp only [givesPart_week_iff, givesPart_weekday_iff]
  obtain ⟨hfinite, hweek⟩ := t.date.week_eq_ncard_sundays
  have hcount : (t.date.week : ℤ) = 1 + t.date.sundays.ncard := by
    rw [hweek, Nat.cast_add, Nat.cast_one]
  refine ⟨hfinite, hcount, fun hfirst => ?_, fun t' hnext => ⟨?_, ?_⟩⟩
  · rw [Date.week_of_first (Date.eq_januaryFirst_iff.mp hfirst)]
    rfl
  · rintro n rfl
    rw [hnext.weekday_eq]
    omega
  · rintro hyear n rfl
    rw [hnext.week_eq hyear]
    constructor
    · intro hsunday
      rw [if_pos (by omega)]
      rfl
    · intro hother
      rw [if_neg (by omega)]
      rfl

/-- The last Saturday of a leap year that began on a Saturday. -/
def lastSaturday : DateTime := .midnight ⟨2028, 12, 30, by decide⟩

/-- The day after it, a Sunday and the last day of the year. -/
def lastSunday : DateTime := .midnight ⟨2028, 12, 31, by decide⟩

/-- With its last day such a year has a week 54. -/
theorem week_of_last_sunday :
    lastSaturday.date.Next lastSunday.date ∧ lastSunday.date.year = lastSaturday.date.year ∧
      GivesPart lastSaturday "WeekDay" 7 ∧ GivesPart lastSunday "WeekDay" 1 ∧
      GivesPart lastSaturday "Week" 53 ∧ GivesPart lastSunday "Week" 54 ∧
      lastSunday.date.sundays.ncard = 53 := by
  have hnext : lastSaturday.date.Next lastSunday.date := .sameMonth rfl rfl rfl
  have hsaturday : GivesPart lastSaturday "WeekDay" 7 := givesPart_weekday_iff.mpr (by decide)
  have hweek : GivesPart lastSaturday "Week" 53 := givesPart_week_iff.mpr (by decide)
  obtain ⟨-, -, -, hafter⟩ := week_counts_sundays lastSaturday
  obtain ⟨-, hcount, -⟩ := week_counts_sundays lastSunday
  obtain ⟨hweekday, hgrows⟩ := hafter lastSunday hnext
  have hsunday : GivesPart lastSunday "WeekDay" 1 := hweekday 7 hsaturday
  have hlast : GivesPart lastSunday "Week" 54 := (hgrows rfl 53 hweek).1 hsunday
  rw [givesPart_week_iff] at hcount
  have hsame := hcount.symm.trans (givesPart_week_iff.mp hlast)
  exact ⟨hnext, rfl, hsaturday, hsunday, hweek, hlast, by omega⟩

end Function

end RowFilter
