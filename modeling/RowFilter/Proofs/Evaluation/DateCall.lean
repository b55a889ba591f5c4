import RowFilter.Proofs.Calendar.Moment
import RowFilter.Proofs.Evaluation.TextCall

/-!
Calls of DATEADD and DATEDIFF. Between a time and what DATEADD makes of it DATEDIFF finds the amount
that was added, whatever the interval, and minus that amount from the later time to the first one.
-/

namespace RowFilter

open Calendar (DateTime Interval daysInMonth)

variable {a b t : DateTime} {n : Word .int32} {name : String} {v : Value}

/-! ## What the calls return -/

namespace Call

variable {c : Call} {i : ℕ}

theorem dateTime?_of_argument (h : c.argument i = .dateTime t) : c.dateTime? i = .ok (some t) := by
  rw [dateTime?, h]

theorem interval_eq_ok_iff (h : c.argument i = .string name) {interval : Interval} :
    c.interval i = .ok interval ↔ Interval.read? name = some interval := by
  have hname : c.name i "a time interval name" = .ok name := by
    rw [Call.name, string?, h, ok_bind]
    dsimp only
    rw [String.ofList_toList, pure_eq_ok]
  rw [Call.interval, hname, ok_bind]
  cases Interval.read? name with
  | none => exact iff_of_false nofun nofun
  | some other =>
    dsimp only
    rw [pure_eq_ok, Except.ok.injEq, Option.some.injEq]

/-- There is a result if there is an interval of that name, and a time so many of them later. -/
theorem dateAdd_eq_ok_iff (htime : c.argument 0 = .dateTime t)
    (hamount : c.argument 1 = .integer .int32 n) (hname : c.argument 2 = .string name) :
    c.dateAdd = .ok v ↔ ∃ interval later, Interval.read? name = some interval ∧
      interval.add? t n.toInt = some later ∧ v = .dateTime later := by
  rw [dateAdd, dateTime?_of_argument htime, ok_bind, integer?_of_argument hamount, ok_bind]
  simp only [bind_eq_ok_iff, interval_eq_ok_iff hname, exists_and_left]
  refine exists_congr fun interval => and_congr_right fun _ => ?_
  cases interval.add? t n.toInt with
  | none => simp
  | some later => simp [eq_comm]

/-- There is a result if there is an interval of that name, and the number of them between the two
times is an Int32. -/
theorem dateDiff_eq_ok_iff (hfirst : c.argument 0 = .dateTime a)
    (hsecond : c.argument 1 = .dateTime b) (hname : c.argument 2 = .string name) :
    c.dateDiff = .ok v ↔ ∃ interval n, Interval.read? name = some interval ∧
      Word.ofInt? .int32 (interval.between a b) = some n ∧ v = .integer .int32 n := by
  rw [dateDiff, dateTime?_of_argument hfirst, ok_bind, dateTime?_of_argument hsecond, ok_bind]
  simp only [bind_eq_ok_iff, interval_eq_ok_iff hname, exists_and_left]
  refine exists_congr fun interval => and_congr_right fun _ => ?_
  cases Word.ofInt? .int32 (interval.between a b) with
  | none => simp
  | some n => simp [eq_comm]

end Call

namespace Function

theorem returns_dateAdd_iff :
    dateAdd.Returns [.dateTime t, .integer .int32 n, .string name] v ↔
      ∃ interval later, Interval.read? name = some interval ∧
        interval.add? t n.toInt = some later ∧ v = .dateTime later := by
  have houtcome : dateAdd.Returns [.dateTime t, .integer .int32 n, .string name] v ↔
      (Call.mk dateAdd [.dateTime t, .integer .int32 n, .string name]).dateAdd = .ok v :=
    returns_iff_of_value rfl rfl fun _ => rfl
  exact houtcome.trans (Call.dateAdd_eq_ok_iff rfl rfl rfl)

theorem returns_dateDiff_iff :
    dateDiff.Returns [.dateTime a, .dateTime b, .string name] v ↔
      ∃ interval n, Interval.read? name = some interval ∧
        Word.ofInt? .int32 (interval.between a b) = some n ∧ v = .integer .int32 n := by
  have houtcome : dateDiff.Returns [.dateTime a, .dateTime b, .string name] v ↔
      (Call.mk dateDiff [.dateTime a, .dateTime b, .string name]).dateDiff = .ok v :=
    returns_iff_of_value rfl rfl fun _ => rfl
  exact houtcome.trans (Call.dateDiff_eq_ok_iff rfl rfl rfl)

/-! ## One after the other -/

/-- What DATEADD returns for a time that is no leap second is a time again, and from the one to the
other DATEDIFF returns the amount that was added. Back from there it returns minus that amount, as
long as this is an Int32. Years and months keep the time of day, and the day or the last one of a
month that is too short for it. -/
theorem dateDiff_of_dateAdd (hleap : t.isLeapSecond = false)
    (h : dateAdd.Returns [.dateTime t, .integer .int32 n, .string name] v) :
    ∃ later, v = .dateTime later ∧
      dateDiff.Returns [.dateTime t, .dateTime later, .string name] (.integer .int32 n) ∧
      (∀ m, Word.ofInt? .int32 (-n.toInt) = some m →
        dateDiff.Returns [.dateTime later, .dateTime t, .string name] (.integer .int32 m)) ∧
      ∀ interval count, Interval.read? name = some interval → interval.measure = .months count →
        later.date.day = min t.date.day (daysInMonth later.date.year later.date.month) ∧
          later.second = t.second ∧ later.nano = t.nano := by
  obtain ⟨interval, later, hname, hadd, rfl⟩ := returns_dateAdd_iff.mp h
  obtain ⟨hforth, hback⟩ := Interval.between_of_add? hleap hadd
  refine ⟨later, rfl, ?_, fun m hm => ?_, fun other count hother hmonths => ?_⟩
  · have hfits : Word.ofInt? .int32 (interval.between t later) = some n :=
      Word.ofInt?_eq_some_iff.mpr hforth.symm
    exact returns_dateDiff_iff.mpr ⟨interval, n, hname, hfits, rfl⟩
  · rw [← hback] at hm
    exact returns_dateDiff_iff.mpr ⟨interval, m, hname, hm, rfl⟩
  · obtain rfl := Option.some.inj (hname.symm.trans hother)
    rw [Interval.add?, hmonths] at hadd
    exact DateTime.day_of_addMonths? hadd

/-- Noon of the last day of January. -/
def endOfJanuary : DateTime := ⟨⟨2019, 1, 31, by decide⟩, 43200, 0, by decide⟩

/-- Noon of the last day of February. -/
def endOfFebruary : DateTime := ⟨⟨2019, 2, 28, by decide⟩, 43200, 0, by decide⟩

/-- From the end of January to that of February a month is added, and counted in both directions. -/
theorem dateDiff_of_month_added :
    endOfJanuary.isLeapSecond = false ∧
      dateAdd.Returns [.dateTime endOfJanuary, .integer .int32 (.wrap .int32 1), .string "Month"]
        (.dateTime endOfFebruary) ∧
      dateDiff.Returns [.dateTime endOfJanuary, .dateTime endOfFebruary, .string "Month"]
        (.integer .int32 (.wrap .int32 1)) ∧
      dateDiff.Returns [.dateTime endOfFebruary, .dateTime endOfJanuary, .string "Month"]
        (.integer .int32 (.wrap .int32 (-1))) ∧
      endOfFebruary.date.day = min 31 (daysInMonth 2019 2) := by
  have hleap : endOfJanuary.isLeapSecond = false := by decide
  have hname : Interval.read? "Month" = some .month := by decide +kernel
  have hadd : dateAdd.Returns
      [.dateTime endOfJanuary, .integer .int32 (.wrap .int32 1), .string "Month"]
      (.dateTime endOfFebruary) :=
    returns_dateAdd_iff.mpr ⟨.month, endOfFebruary, hname, by decide +kernel, rfl⟩
  have hnegative : Word.ofInt? .int32 (-(Word.wrap .int32 1).toInt) = some (.wrap .int32 (-1)) := by
    decide +kernel
  obtain ⟨later, hlater, hforth, hback, hclamped⟩ := dateDiff_of_dateAdd hleap hadd
  obtain rfl := Value.dateTime.inj hlater
  exact ⟨hleap, hadd, hforth, hback _ hnegative, (hclamped .month 1 hname rfl).1⟩

end Function

end RowFilter
