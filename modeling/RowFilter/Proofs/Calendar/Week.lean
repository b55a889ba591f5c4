import Mathlib.Data.Set.Card
import RowFilter.Proofs.Calendar.Moment

/-!
Weeks that begin on Sunday. The days of a year are in the order of their ordinals, and from a day to
the next one the ordinal and the weekday go on by one. So the weeks of a year can be counted: the
first one holds January 1, and with each Sunday after it another one begins.
-/

namespace RowFilter.Calendar

/-! ## Months and years -/

theorem daysInMonth_pos (year : ℤ) (month : ℕ) : 0 < daysInMonth year month := by
  unfold daysInMonth
  split
  · split <;> decide
  all_goals decide

theorem daysBeforeMonth_le (year : ℤ) {month later : ℕ} (hmonth : 1 ≤ month)
    (h : month ≤ later) : daysBeforeMonth year month ≤ daysBeforeMonth year later := by
  induction later, h using Nat.le_induction with
  | base => exact le_rfl
  | succ later hle ih =>
    rw [daysBeforeMonth_succ year (hmonth.trans hle)]
    exact ih.trans (Nat.le_add_right _ _)

/-- The months make up the year. -/
theorem daysBeforeMonth_thirteen (year : ℤ) : daysBeforeMonth year 13 = daysInYear year := by
  simp only [daysBeforeMonth, daysInMonth, daysInYear]
  split <;> rfl

/-- The years before a year are those before the last one and the last one. -/
theorem daysBeforeYear_succ (year : ℤ) :
    daysBeforeYear (year + 1) = daysBeforeYear year + daysInYear year := by
  rw [daysBeforeYear, daysBeforeYear, daysInYear]
  by_cases hleap : isLeap year = true
  · rw [if_pos hleap]
    simp only [isLeap, Bool.and_eq_true, Bool.or_eq_true, decide_eq_true_eq] at hleap
    omega
  · rw [if_neg hleap]
    simp only [isLeap, Bool.and_eq_true, Bool.or_eq_true, decide_eq_true_eq] at hleap
    omega

namespace Date

variable {d d' s : Date}

/-! ## Days of a year -/

theorem one_le_ordinal (d : Date) : 1 ≤ d.ordinal := by
  have hday := d.valid.2.2.1
  rw [ordinal]
  omega

theorem ordinal_le_daysBeforeMonth (d : Date) :
    d.ordinal ≤ daysBeforeMonth d.year (d.month + 1) := by
  have hday := d.valid.2.2.2
  rw [ordinal, daysBeforeMonth_succ d.year d.valid.2.1.1]
  omega

theorem ordinal_le_daysInYear (d : Date) : d.ordinal ≤ daysInYear d.year := by
  have hmonth : d.month + 1 ≤ 13 := Nat.succ_le_succ d.valid.2.1.2
  rw [← daysBeforeMonth_thirteen]
  exact d.ordinal_le_daysBeforeMonth.trans
    (daysBeforeMonth_le d.year (Nat.le_add_left 1 d.month) hmonth)

theorem ordinal_lt_of_month_lt (hyear : d.year = d'.year) (h : d.month < d'.month) :
    d.ordinal < d'.ordinal := by
  have hday := d'.valid.2.2.1
  calc d.ordinal
    _ ≤ daysBeforeMonth d.year (d.month + 1) := d.ordinal_le_daysBeforeMonth
    _ ≤ daysBeforeMonth d.year d'.month := daysBeforeMonth_le d.year (Nat.le_add_left 1 d.month) h
    _ < d'.ordinal := by rw [ordinal, hyear]; omega

/-- The days of a year are compared by their ordinals. -/
theorem compare_eq_compare_ordinal (hyear : d.year = d'.year) :
    d.compare d' = Ord.compare d.ordinal d'.ordinal := by
  rw [Date.compare, Int.compare_eq_eq.mpr hyear, Ordering.eq_then]
  rcases lt_trichotomy d.month d'.month with hlt | heq | hgt
  · rw [Nat.compare_eq_lt.mpr hlt, Nat.compare_eq_lt.mpr (ordinal_lt_of_month_lt hyear hlt)]
    rfl
  · rw [Nat.compare_eq_eq.mpr heq, Ordering.eq_then, ordinal, ordinal, hyear, heq,
      ← cmp_eq_compare, ← cmp_eq_compare, cmp_add_left]
  · rw [Nat.compare_eq_gt.mpr hgt, Nat.compare_eq_gt.mpr (ordinal_lt_of_month_lt hyear.symm hgt)]
    rfl

theorem year_le_of_compare (h : d.compare d' ≠ .gt) : d.year ≤ d'.year := by
  by_contra hyear
  rw [Date.compare, Int.compare_eq_gt.mpr (not_le.mp hyear)] at h
  exact h rfl

/-- A day of a year is known by its ordinal. -/
theorem eq_of_ordinal_eq (hyear : d.year = d'.year) (h : d.ordinal = d'.ordinal) : d = d' := by
  have hsame : d.compare d' = .eq := by
    rw [compare_eq_compare_ordinal hyear, Nat.compare_eq_eq.mpr h]
  simp only [Date.compare, Ordering.then_eq_eq, Int.compare_eq_eq, Nat.compare_eq_eq] at hsame
  obtain ⟨year, month, day, hd⟩ := d
  obtain ⟨year', month', day', hd'⟩ := d'
  obtain ⟨rfl, rfl, rfl⟩ := hsame
  rfl

/-- January 1 of the year of a day. -/
def januaryFirst (d : Date) : Date :=
  ⟨d.year, 1, 1, d.valid.1, by decide, le_rfl, daysInMonth_pos d.year 1⟩

theorem ordinal_januaryFirst (d : Date) : d.januaryFirst.ordinal = 1 := rfl

theorem eq_januaryFirst_iff : d = d.januaryFirst ↔ d.ordinal = 1 := by
  constructor
  · intro h
    rw [h, ordinal_januaryFirst]
  · exact fun h => eq_of_ordinal_eq rfl h

/-! ## From a day to the next -/

/-- `d'` is the day after `d`: in the same month, or the first of the next month or year. -/
inductive Next (d d' : Date) : Prop where
  | sameMonth (hyear : d'.year = d.year) (hmonth : d'.month = d.month) (hday : d'.day = d.day + 1)
  | nextMonth (hyear : d'.year = d.year) (hmonth : d'.month = d.month + 1)
      (hlast : d.day = daysInMonth d.year d.month) (hfirst : d'.day = 1)
  | nextYear (hyear : d'.year = d.year + 1) (hlast : d.month = 12 ∧ d.day = 31)
      (hfirst : d'.month = 1 ∧ d'.day = 1)

theorem Next.ordinal_eq (h : d.Next d') (hyear : d'.year = d.year) :
    d'.ordinal = d.ordinal + 1 := by
  cases h with
  | sameMonth _ hmonth hday => rw [ordinal, ordinal, hyear, hmonth, hday, Nat.add_assoc]
  | nextMonth _ hmonth hlast hfirst =>
    rw [ordinal, ordinal, hyear, hmonth, daysBeforeMonth_succ d.year d.valid.2.1.1, hlast, hfirst]
  | nextYear hnext => omega

theorem Next.dayNumber_eq (h : d.Next d') : d'.dayNumber = d.dayNumber + 1 := by
  have hsame (hyear : d'.year = d.year) : d'.dayNumber = d.dayNumber + 1 := by
    rw [dayNumber, dayNumber, hyear, h.ordinal_eq hyear]
    omega
  cases h with
  | sameMonth hyear => exact hsame hyear
  | nextMonth hyear => exact hsame hyear
  | nextYear hyear hlast hfirst =>
    -- the last day of December is the last one of the year
    have hall : daysBeforeMonth d.year 12 + 31 = daysInYear d.year := by
      rw [← daysBeforeMonth_thirteen]
      rfl
    have hnone : daysBeforeMonth (d.year + 1) 1 = 0 := rfl
    rw [dayNumber, dayNumber, ordinal, ordinal, hyear, hlast.1, hlast.2, hfirst.1, hfirst.2,
      daysBeforeYear_succ, hall, hnone]
    omega

/-- The weekdays follow each other, whatever the month or the year. -/
theorem Next.weekday_eq (h : d.Next d') : d'.weekday = (d.weekday + 1) % 7 := by
  rw [weekday, weekday, h.dayNumber_eq]
  omega

/-- Each day of a year but the first one comes after a day of this year. -/
theorem exists_previous (h : d.ordinal ≠ 1) : ∃ p : Date, p.year = d.year ∧ p.Next d := by
  obtain ⟨hyear, ⟨hmonth, hmonth'⟩, hday, hday'⟩ := d.valid
  by_cases hfirst : d.day = 1
  · have hlater : d.month ≠ 1 := by
      intro hjanuary
      rw [ordinal, hfirst, hjanuary] at h
      exact h rfl
    have hpos := daysInMonth_pos d.year (d.month - 1)
    have hvalid : IsDate d.year (d.month - 1) (daysInMonth d.year (d.month - 1)) :=
      ⟨hyear, ⟨by omega, by omega⟩, hpos, le_rfl⟩
    refine ⟨⟨d.year, d.month - 1, _, hvalid⟩, rfl, .nextMonth rfl ?_ rfl hfirst⟩
    exact (Nat.sub_add_cancel hmonth).symm
  · have hvalid : IsDate d.year d.month (d.day - 1) :=
      ⟨hyear, ⟨hmonth, hmonth'⟩, by omega, by omega⟩
    refine ⟨⟨d.year, d.month, d.day - 1, hvalid⟩, rfl, .sameMonth rfl rfl ?_⟩
    exact (Nat.sub_add_cancel hday).symm

/-- What holds of January 1 and goes on from each day to the next one of the year holds of every
day. -/
theorem yearInduction {P : Date → Prop} (first : ∀ d, d.ordinal = 1 → P d)
    (next : ∀ p d : Date, p.Next d → d.year = p.year → P p → P d) (d : Date) : P d := by
  induction hn : d.ordinal using Nat.strong_induction_on generalizing d with
  | h n ih =>
    by_cases hfirst : d.ordinal = 1
    · exact first d hfirst
    · obtain ⟨p, hyear, hnext⟩ := exists_previous hfirst
      have hless : p.ordinal < n := by
        rw [← hn, hnext.ordinal_eq hyear.symm]
        exact Nat.lt_succ_self _
      exact next p d hnext hyear.symm (ih _ hless p rfl)

/-! ## Sundays -/

/-- The Sundays after January 1 of the year of a day, up to the day itself. -/
def sundays (d : Date) : Set Date :=
  {s | d.januaryFirst.compare s = .lt ∧ s.compare d ≠ .gt ∧ s.weekday = 0}

theorem mem_sundays_iff : s ∈ d.sundays ↔
    s.year = d.year ∧ 1 < s.ordinal ∧ s.ordinal ≤ d.ordinal ∧ s.weekday = 0 := by
  -- the order of dates is that of the ordinals only once both are known to be of one year
  have hordinals (hyear : s.year = d.year) :
      d.januaryFirst.compare s = .lt ∧ s.compare d ≠ .gt ↔
        1 < s.ordinal ∧ s.ordinal ≤ d.ordinal := by
    rw [compare_eq_compare_ordinal (show d.januaryFirst.year = s.year from hyear.symm),
      compare_eq_compare_ordinal hyear, Nat.compare_eq_lt, Nat.compare_ne_gt, ordinal_januaryFirst]
  constructor
  · rintro ⟨hafter, hbefore, hsunday⟩
    have hleast : d.year ≤ s.year := by
      refine year_le_of_compare (d := d.januaryFirst) ?_
      rw [hafter]
      decide
    have hyear : s.year = d.year := le_antisymm (year_le_of_compare hbefore) hleast
    obtain ⟨hfirst, hlast⟩ := (hordinals hyear).mp ⟨hafter, hbefore⟩
    exact ⟨hyear, hfirst, hlast, hsunday⟩
  · rintro ⟨hyear, hfirst, hlast, hsunday⟩
    obtain ⟨hafter, hbefore⟩ := (hordinals hyear).mpr ⟨hfirst, hlast⟩
    exact ⟨hafter, hbefore, hsunday⟩

theorem sundays_of_first (h : d.ordinal = 1) : d.sundays = ∅ := by
  refine Set.eq_empty_of_forall_notMem fun s hs => ?_
  obtain ⟨-, hfirst, hlast, -⟩ := mem_sundays_iff.mp hs
  omega

/-- A Sunday is one more. -/
theorem Next.sundays_of_sunday (h : d.Next d') (hyear : d'.year = d.year)
    (hsunday : d'.weekday = 0) : d'.sundays = insert d' d.sundays := by
  have hordinal := h.ordinal_eq hyear
  have hpos := d.one_le_ordinal
  ext s
  rw [Set.mem_insert_iff, mem_sundays_iff, mem_sundays_iff]
  constructor
  · rintro ⟨hs, hfirst, hlast, hs'⟩
    by_cases hsame : s.ordinal = d'.ordinal
    · exact .inl (eq_of_ordinal_eq hs hsame)
    · exact .inr ⟨hs.trans hyear, hfirst, by omega, hs'⟩
  · rintro (rfl | ⟨hs, hfirst, hlast, hs'⟩)
    · exact ⟨rfl, by omega, le_rfl, hsunday⟩
    · exact ⟨hs.trans hyear.symm, hfirst, by omega, hs'⟩

/-- Any other day leaves them as they are. -/
theorem Next.sundays_of_not_sunday (h : d.Next d') (hyear : d'.year = d.year)
    (hsunday : d'.weekday ≠ 0) : d'.sundays = d.sundays := by
  have hordinal := h.ordinal_eq hyear
  ext s
  rw [mem_sundays_iff, mem_sundays_iff, hyear]
  refine and_congr_right fun hs => and_congr_right fun _ => and_congr_left fun hs' => ?_
  -- the day itself is no Sunday, so the last one to be counted comes before it
  have hother : s.ordinal ≠ d'.ordinal := by
    intro hsame
    rw [eq_of_ordinal_eq (hs.trans hyear.symm) hsame] at hs'
    exact hsunday hs'
  omega

/-! ## Weeks -/

theorem week_of_first (h : d.ordinal = 1) : d.week = 1 := by
  simp only [week, h]
  omega

/-- With a Sunday another week begins. -/
theorem Next.week_eq (h : d.Next d') (hyear : d'.year = d.year) :
    d'.week = d.week + if d'.weekday = 0 then 1 else 0 := by
  have hordinal := h.ordinal_eq hyear
  have hpos := d.one_le_ordinal
  -- the days since the Sunday before the year are divided by seven: they reach a multiple of seven
  -- when the day number does
  simp only [week, weekday, dayNumber, hyear, hordinal]
  split <;> omega

/-- The week of a day is one more than the number of Sundays up to the day, after January 1. -/
theorem week_eq_ncard_sundays (d : Date) : d.sundays.Finite ∧ d.week = 1 + d.sundays.ncard := by
  induction d using yearInduction with
  | first d h =>
    rw [sundays_of_first h, week_of_first h, Set.ncard_empty]
    exact ⟨Set.finite_empty, rfl⟩
  | next p d h hyear ih =>
    obtain ⟨hfinite, hweek⟩ := ih
    by_cases hsunday : d.weekday = 0
    · have hnew : d ∉ p.sundays := by
        intro hmem
        have hlast := (mem_sundays_iff.mp hmem).2.2.1
        have hordinal := h.ordinal_eq hyear
        omega
      rw [h.sundays_of_sunday hyear hsunday, h.week_eq hyear, if_pos hsunday, hweek,
        Set.ncard_insert_of_notMem hnew hfinite]
      exact ⟨hfinite.insert d, Nat.add_assoc 1 _ 1⟩
    · rw [h.sundays_of_not_sunday hyear hsunday, h.week_eq hyear, if_neg hsunday, hweek]
      exact ⟨hfinite, rfl⟩

end Date

end RowFilter.Calendar
