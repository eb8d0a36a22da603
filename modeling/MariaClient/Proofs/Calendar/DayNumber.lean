import Mathlib.Tactic.IntervalCases
import Mathlib.Tactic.Ring
import MariaClient.Calendar

/-!
# Days as numbers

The days from the first day of year 1 to a date, counted by a closed formula.  Months follow one
another within a year and years within the calendar without gaps.  So a date is told by its number
(`date_unique`), and every number of a day within a year is that of a date (`monthAndDay_spec`).
-/

namespace MariaClient.Calendar

variable {year month day n : Nat}

/-! ## Stretches that follow one another -/

section Stretches

variable {before length : Nat → Nat} (h : ∀ k, before (k + 1) = before k + length k)

include h

theorem before_le {a b : Nat} (hab : a ≤ b) : before a ≤ before b := by
  induction hab with
  | refl => exact Nat.le_refl _
  | step _ ih => exact Nat.le_trans ih (h _ ▸ Nat.le_add_right _ _)

/-- A place lies before all places of the stretches that follow. -/
theorem stretch_lt {a b x y : Nat} (hx : x < length a) (hab : a < b) :
    before a + x < before b + y :=
  calc before a + x
    _ < before (a + 1) := h a ▸ Nat.add_lt_add_left hx _
    _ ≤ before b := before_le h hab
    _ ≤ before b + y := Nat.le_add_right _ _

/-- A place, counted from one within its stretch, lies in one of the stretches only. -/
theorem stretch_unique {a b x y : Nat} (hx : 1 ≤ x ∧ x ≤ length a) (hy : 1 ≤ y ∧ y ≤ length b)
    (heq : before a + x = before b + y) : a = b ∧ x = y := by
  rcases Nat.lt_trichotomy a b with hab | rfl | hba
  · have hlt := stretch_lt h (x := x - 1) (y := y - 1) (by omega) hab
    omega
  · exact ⟨rfl, Nat.add_left_cancel heq⟩
  · have hlt := stretch_lt h (x := y - 1) (y := x - 1) (by omega) hba
    omega

end Stretches

/-! ## Years -/

theorem daysInYear_bounds (year : Nat) : 365 ≤ daysInYear year ∧ daysInYear year ≤ 366 := by
  unfold daysInYear
  split <;> decide

/-- The leap years among the first years. -/
def leapYears (years : Nat) : Nat :=
  years / 4 - years / 100 + years / 400

/-- The days before a year. -/
def daysBeforeYear (year : Nat) : Nat :=
  365 * (year - 1) + leapYears (year - 1)

theorem div_succ (n k : Nat) : (n + 1) / k = n / k + if (n + 1) % k = 0 then 1 else 0 := by
  simp only [Nat.succ_div, Nat.dvd_iff_mod_eq_zero]

theorem leapYears_succ (years : Nat) :
    leapYears (years + 1) = leapYears years + if isLeapYear (years + 1) then 1 else 0 := by
  have hle : years / 100 ≤ years / 4 := by omega
  have h400 : (years + 1) % 400 = 0 → (years + 1) % 100 = 0 := by omega
  have h100 : (years + 1) % 100 = 0 → (years + 1) % 4 = 0 := by omega
  simp only [leapYears, div_succ, isLeapYear, Bool.or_eq_true, Bool.and_eq_true, beq_iff_eq,
    bne_iff_ne]
  by_cases century : (years + 1) % 100 = 0
  · rw [if_pos (h100 century), if_pos century]
    by_cases fourth : (years + 1) % 400 = 0
    · rw [if_pos fourth, if_pos (.inl fourth)]
      omega
    · rw [if_neg fourth, if_neg (by omega)]
      omega
  · rw [if_neg century, if_neg (mt h400 century)]
    by_cases fourth : (years + 1) % 4 = 0
    · rw [if_pos fourth, if_pos (.inr ⟨fourth, century⟩)]
      omega
    · rw [if_neg fourth, if_neg (by omega)]
      rfl

theorem daysBeforeYear_succ (h : 1 ≤ year) :
    daysBeforeYear (year + 1) = daysBeforeYear year + daysInYear year := by
  obtain ⟨years, rfl⟩ := Nat.exists_eq_add_of_le' h
  simp only [daysBeforeYear, Nat.add_sub_cancel, leapYears_succ, daysInYear]
  split
  · omega
  · omega

theorem daysBeforeYear_le {a b : Nat} (h : a ≤ b) : daysBeforeYear a ≤ daysBeforeYear b := by
  have hstep (k : Nat) :
      daysBeforeYear (k + 1) = daysBeforeYear k + if k = 0 then 0 else daysInYear k := by
    split
    · next hk => rw [hk]; rfl
    · next hk => exact daysBeforeYear_succ (Nat.pos_of_ne_zero hk)
  exact before_le hstep h

/-! ## Months -/

theorem daysBeforeMonth_succ (year months : Nat) :
    daysBeforeMonth year (months + 1) =
      daysBeforeMonth year months + daysInMonth year (months + 1) := by
  by_cases h : months < 12
  · rw [daysBeforeMonth, daysBeforeMonth, Nat.min_eq_left h, Nat.min_eq_left (Nat.le_of_lt h),
      List.range_succ, List.map_append, List.sum_append, List.map_singleton, List.sum_singleton]
  · have hlate : 12 ≤ months := Nat.le_of_not_lt h
    have hnone : daysInMonth year (months + 1) = 0 := by
      unfold daysInMonth
      split <;> first | rfl | omega
    rw [hnone, daysBeforeMonth, daysBeforeMonth, Nat.min_eq_right hlate,
      Nat.min_eq_right (Nat.le_add_right_of_le hlate), Nat.add_zero]

theorem daysBeforeMonth_twelve (year : Nat) : daysBeforeMonth year 12 = daysInYear year := by
  have hsum : daysBeforeMonth year 12 = 337 + daysInMonth year 2 := by
    simp [daysBeforeMonth, List.range_succ, daysInMonth]
    omega
  rw [hsum, daysInMonth, daysInYear]
  split
  · rfl
  · rfl

theorem daysInMonth_le (year month : Nat) : daysInMonth year month ≤ 31 := by
  have hfebruary : (if isLeapYear year then 29 else 28) ≤ 31 := by split <;> decide
  unfold daysInMonth
  split <;> first | exact hfebruary | decide

/-- There are no months past December. -/
theorem month_le_of_day (hpos : 1 ≤ day) (hday : day ≤ daysInMonth year month) : month ≤ 12 := by
  unfold daysInMonth at hday
  split at hday <;> first | decide | exact absurd (Nat.le_trans hpos hday) (by decide)

/-! ## The days of a year -/

theorem dayOfYear_succ (year months day : Nat) :
    dayOfYear year (months + 1) day = daysBeforeMonth year months + day := rfl

theorem dayOfYear_le (hfirst : 1 ≤ month) (hpos : 1 ≤ day) (hday : day ≤ daysInMonth year month) :
    dayOfYear year month day ≤ daysInYear year := by
  have hlast := month_le_of_day hpos hday
  obtain ⟨months, rfl⟩ := Nat.exists_eq_add_of_le' hfirst
  calc dayOfYear year (months + 1) day
    _ ≤ daysBeforeMonth year months + daysInMonth year (months + 1) := Nat.add_le_add_left hday _
    _ = daysBeforeMonth year (months + 1) := (daysBeforeMonth_succ year months).symm
    _ ≤ daysBeforeMonth year 12 := before_le (daysBeforeMonth_succ year) hlast
    _ = daysInYear year := daysBeforeMonth_twelve year

/-- The search for the month of a day ends before the year does. -/
theorem findMonth_spec {left : Nat} :
    ∀ {months n : Nat}, months + left = 12 → 1 ≤ n →
      daysBeforeMonth year months + n ≤ daysInYear year →
      ∃ month day, findMonth year (months + 1) n left = some (month, day) ∧ 1 ≤ month ∧ 1 ≤ day ∧
        day ≤ daysInMonth year month ∧
        dayOfYear year month day = daysBeforeMonth year months + n := by
  induction left with
  | zero =>
    rintro months n rfl hn hle
    rw [daysBeforeMonth_twelve] at hle
    omega
  | succ left ih =>
    rintro months n hleft hn hle
    rw [findMonth]
    split
    · next hday =>
      exact ⟨months + 1, n, rfl, Nat.le_add_left 1 months, hn, hday, rfl⟩
    · next hday =>
      have hnext := daysBeforeMonth_succ year months
      obtain ⟨month, day, hfound, hmonth, hpos, hlength, hnumber⟩ :=
        @ih (months + 1) (n - daysInMonth year (months + 1)) (by omega) (by omega) (by omega)
      exact ⟨month, day, hfound, hmonth, hpos, hlength, by omega⟩

/-- Every number of a day of a year is that of a day of some month. -/
theorem exists_monthAndDay (hn : 1 ≤ n) (hle : n ≤ daysInYear year) :
    ∃ month day, monthAndDay year n = some (month, day) ∧ 1 ≤ month ∧ 1 ≤ day ∧
      day ≤ daysInMonth year month ∧ dayOfYear year month day = n := by
  have hzero : daysBeforeMonth year 0 = 0 := rfl
  obtain ⟨month, day, hfound, hmonth, hpos, hday, hnumber⟩ :=
    @findMonth_spec year 12 0 n rfl hn (by omega)
  refine ⟨month, day, ?_, hmonth, hpos, hday, by omega⟩
  rw [monthAndDay, if_neg (by omega), hfound]

/-- Every number of a day of a year is that of a date. -/
theorem monthAndDay_spec (hfirst : 1 ≤ year) (hlast : year ≤ maxYear) (hn : 1 ≤ n)
    (hle : n ≤ daysInYear year) :
    ∃ month day, monthAndDay year n = some (month, day) ∧ validDate year month day = true ∧
      dayOfYear year month day = n := by
  obtain ⟨month, day, hfound, hmonth, hpos, hday, hnumber⟩ := exists_monthAndDay hn hle
  refine ⟨month, day, hfound, ?_, hnumber⟩
  simp only [validDate, Bool.and_eq_true, decide_eq_true_eq]
  exact ⟨⟨⟨⟨hfirst, hlast⟩, hmonth⟩, hpos⟩, hday⟩

/-! ## The numbers of dates -/

/-- The number of a date, counted from zero on the first day of year 1.  From one month to the next
it grows as if twelve months had 367 days, but for the days that February lacks. -/
def dayNumber (year month day : Nat) : Int :=
  365 * (year - 1) + (year - 1) / 4 - (year - 1) / 100 + (year - 1) / 400 +
    (367 * month - 362) / 12 + (if month ≤ 2 then 0 else if isLeapYear year then -1 else -2) +
    (day - 1)

theorem daysBeforeMonth_eq (hfirst : 1 ≤ month) (hlast : month ≤ 12) :
    (daysBeforeMonth year (month - 1) : Int) =
      (367 * month - 362) / 12 + if month ≤ 2 then 0 else if isLeapYear year then -1 else -2 := by
  interval_cases month
  all_goals
    simp [daysBeforeMonth, List.range_succ, daysInMonth]
    try split <;> rfl

theorem daysBeforeYear_eq (hfirst : 1 ≤ year) :
    (daysBeforeYear year : Int) =
      365 * (year - 1) + (year - 1) / 4 - (year - 1) / 100 + (year - 1) / 400 := by
  obtain ⟨years, rfl⟩ := Nat.exists_eq_add_of_le' hfirst
  have hle : years / 100 ≤ years / 4 := by omega
  rw [daysBeforeYear, leapYears, Nat.add_sub_cancel]
  push_cast [Nat.cast_sub hle]
  rw [add_sub_cancel_right]
  ring

/-- The number of a date counts the days of the years before it and those of its year. -/
theorem dayNumber_eq (hyear : 1 ≤ year) (hfirst : 1 ≤ month) (hlast : month ≤ 12) :
    dayNumber year month day = daysBeforeYear year + dayOfYear year month day - 1 := by
  rw [dayNumber, dayOfYear, daysBeforeYear_eq hyear]
  push_cast [daysBeforeMonth_eq hfirst hlast]
  ring

/-- A date that exists, with the number of its day within its year. -/
theorem validDate_spec (h : validDate year month day = true) :
    1 ≤ year ∧ year ≤ maxYear ∧ 1 ≤ month ∧ month ≤ 12 ∧ 1 ≤ day ∧ day ≤ daysInMonth year month ∧
      1 ≤ dayOfYear year month day ∧ dayOfYear year month day ≤ daysInYear year := by
  simp only [validDate, Bool.and_eq_true, decide_eq_true_eq] at h
  obtain ⟨⟨⟨⟨hyear, hlast⟩, hmonth⟩, hpos⟩, hday⟩ := h
  exact ⟨hyear, hlast, hmonth, month_le_of_day hpos hday, hpos, hday,
    Nat.le_trans hpos (Nat.le_add_left _ _), dayOfYear_le hmonth hpos hday⟩

theorem dayNumber_of_validDate (h : validDate year month day = true) :
    dayNumber year month day = daysBeforeYear year + dayOfYear year month day - 1 :=
  have hdate := validDate_spec h
  dayNumber_eq hdate.1 hdate.2.2.1 hdate.2.2.2.1

/-- Two days with one number in the calendar fall in one year, with one number there. -/
theorem year_unique {year' n' : Nat} (hyear : 1 ≤ year) (hyear' : 1 ≤ year') (hn : 1 ≤ n)
    (hn' : 1 ≤ n') (hle : n ≤ daysInYear year) (hle' : n' ≤ daysInYear year')
    (h : daysBeforeYear year + n = daysBeforeYear year' + n') : year = year' ∧ n = n' := by
  obtain ⟨years, rfl⟩ := Nat.exists_eq_add_of_le' hyear
  obtain ⟨years', rfl⟩ := Nat.exists_eq_add_of_le' hyear'
  have hstep (k : Nat) := daysBeforeYear_succ (Nat.le_add_left 1 k)
  obtain ⟨rfl, hplace⟩ := @stretch_unique (fun k ↦ daysBeforeYear (k + 1))
    (fun k ↦ daysInYear (k + 1)) hstep years years' n n' ⟨hn, hle⟩ ⟨hn', hle'⟩ h
  exact ⟨rfl, hplace⟩

/-- Two days of a year with one number there are one. -/
theorem monthAndDay_unique {month' day' : Nat}
    (h : 1 ≤ month ∧ 1 ≤ day ∧ day ≤ daysInMonth year month)
    (h' : 1 ≤ month' ∧ 1 ≤ day' ∧ day' ≤ daysInMonth year month')
    (heq : dayOfYear year month day = dayOfYear year month' day') :
    month = month' ∧ day = day' := by
  obtain ⟨hmonth, hday⟩ := h
  obtain ⟨hmonth', hday'⟩ := h'
  obtain ⟨months, rfl⟩ := Nat.exists_eq_add_of_le' hmonth
  obtain ⟨months', rfl⟩ := Nat.exists_eq_add_of_le' hmonth'
  rw [dayOfYear_succ, dayOfYear_succ] at heq
  obtain ⟨rfl, hplace⟩ := stretch_unique (daysBeforeMonth_succ year) hday hday' heq
  exact ⟨rfl, hplace⟩

/-- A date is told by its number. -/
theorem date_unique {year' month' day' : Nat} (h : validDate year month day = true)
    (h' : validDate year' month' day' = true)
    (heq : dayNumber year month day = dayNumber year' month' day') :
    year = year' ∧ month = month' ∧ day = day' := by
  obtain ⟨hyear, -, hmonth, -, hpos, hday, hn, hle⟩ := validDate_spec h
  obtain ⟨hyear', -, hmonth', -, hpos', hday', hn', hle'⟩ := validDate_spec h'
  rw [dayNumber_of_validDate h, dayNumber_of_validDate h'] at heq
  obtain ⟨rfl, hplace⟩ := year_unique hyear hyear' hn hn' hle hle' (by omega)
  exact ⟨rfl, monthAndDay_unique ⟨hmonth, hpos, hday⟩ ⟨hmonth', hpos', hday'⟩ hplace⟩

end MariaClient.Calendar
