import MariaClient.Proofs.Temporal.Distance

/-!
# The numbering of days

A number within a year leads back to the month and the day that have it, and a number past the year
leads nowhere (`monthAndDay_eq_some_iff`).  Counted through the years, the days have the order of
their dates (`compare_ordinal`), and no number is left out (`exists_ordinal`).  So numbering is an
isomorphism of orders, within a year and over all years that a date can have (`numbering_exact`).
-/

namespace MariaClient.Calendar

open Temporal

variable {year month day n : Nat}

/-! ## Within a year -/

theorem bounds_of_monthAndDay {date : Nat × Nat} (h : monthAndDay year n = some date) :
    1 ≤ n ∧ n ≤ daysInYear year := by
  by_contra hbounds
  rw [monthAndDay, if_pos (by omega)] at h
  cases h

/-- The numbers of a year run from one to its length. -/
theorem exists_monthAndDay_iff :
    (∃ month day, monthAndDay year n = some (month, day)) ↔ 1 ≤ n ∧ n ≤ daysInYear year := by
  constructor
  · rintro ⟨month, day, hfound⟩
    exact bounds_of_monthAndDay hfound
  · rintro ⟨hn, hle⟩
    obtain ⟨month, day, hfound, -⟩ := exists_monthAndDay hn hle
    exact ⟨month, day, hfound⟩

/-- The search undoes the numbering, in any year. -/
theorem monthAndDay_eq_some_iff :
    monthAndDay year n = some (month, day) ↔
      (1 ≤ month ∧ month ≤ 12) ∧ (1 ≤ day ∧ day ≤ daysInMonth year month) ∧
        dayOfYear year month day = n := by
  constructor
  · intro h
    obtain ⟨hn, hle⟩ := bounds_of_monthAndDay h
    obtain ⟨month', day', hfound, hmonth, hpos, hday, hnumber⟩ := exists_monthAndDay hn hle
    cases h.symm.trans hfound
    exact ⟨⟨hmonth, month_le_of_day hpos hday⟩, ⟨hpos, hday⟩, hnumber⟩
  · rintro ⟨⟨hmonth, -⟩, ⟨hpos, hday⟩, rfl⟩
    -- The search ends at a day with this number, and no other day of the year has it.
    have hn : 1 ≤ dayOfYear year month day := Nat.le_trans hpos (Nat.le_add_left _ _)
    obtain ⟨month', day', hfound, hmonth', hpos', hday', hnumber⟩ :=
      exists_monthAndDay hn (dayOfYear_le hmonth hpos hday)
    obtain ⟨rfl, rfl⟩ :=
      monthAndDay_unique ⟨hmonth', hpos', hday'⟩ ⟨hmonth, hpos, hday⟩ hnumber
    exact hfound

theorem monthAndDay_dayOfYear (h : validDate year month day = true) :
    monthAndDay year (dayOfYear year month day) = some (month, day) := by
  obtain ⟨-, -, hmonth, hlast, hpos, hday, -⟩ := validDate_spec h
  exact monthAndDay_eq_some_iff.2 ⟨⟨hmonth, hlast⟩, ⟨hpos, hday⟩, rfl⟩

/-! ## Over all years -/

/-- The number of a date, counted from one on the first day of year 1: the days of the years before
it and those of its own. -/
def ordinal (year month day : Nat) : Nat :=
  DateTime.daysOfYears 1 (year - 1) + dayOfYear year month day

theorem daysOfYears_one (hyear : 1 ≤ year) :
    DateTime.daysOfYears 1 (year - 1) = daysBeforeYear year := by
  have hsum := DateTime.daysOfYears_eq (Nat.le_refl 1) (year - 1)
  have hnone : daysBeforeYear 1 = 0 := rfl
  rwa [Nat.add_sub_of_le hyear, hnone, Nat.zero_add] at hsum

/-- Summing the years agrees with the closed formula. -/
theorem ordinal_eq (h : validDate year month day = true) :
    (ordinal year month day : Int) = dayNumber year month day + 1 := by
  rw [dayNumber_of_validDate h, ordinal, daysOfYears_one (validDate_spec h).1]
  omega

theorem compare_ordinal {year' month' day' : Nat} (h : validDate year month day = true)
    (h' : validDate year' month' day' = true) :
    compare (ordinal year month day) (ordinal year' month' day') =
      (compare year year').then ((compare month month').then (compare day day')) := by
  have hnumber := ordinal_eq h
  have hnumber' := ordinal_eq h'
  rw [← compare_dayNumber h h']
  exact compare_congr (by omega) (by omega)

/-- The numbers of dates run on to that of the last day. -/
theorem exists_ordinal (hpos : 1 ≤ n) (hle : n ≤ ordinal maxYear 12 31) :
    ∃ year month day, validDate year month day = true ∧ ordinal year month day = n := by
  have hlast : (ordinal maxYear 12 31 : Int) = DateTime.last.dayNumber + 1 := ordinal_eq rfl
  obtain ⟨d, hd, hnumber, -⟩ :=
    @DateTime.exists_dayNumber (n - 1) (by omega) (by omega) .midnight
  have hordinal : (ordinal d.year d.month d.day : Int) = d.dayNumber + 1 := ordinal_eq hd
  exact ⟨d.year, d.month, d.day, hd, by omega⟩

/-- Numbering the days is an isomorphism of orders.  In any year the numbers from one to its length,
and no others, are those of a month and a day that exists in it, and each date is the one that its
number leads back to.  Counted through the years before it too, a date comes before another one if
and only if it does so by year, month and day, and every number up to that of the last day is the
number of a date. -/
theorem numbering_exact :
    (∀ year n : Nat,
      ((∃ month day, monthAndDay year n = some (month, day)) ↔ 1 ≤ n ∧ n ≤ daysInYear year) ∧
      ∀ month day, monthAndDay year n = some (month, day) ↔
        (1 ≤ month ∧ month ≤ 12) ∧ (1 ≤ day ∧ day ≤ daysInMonth year month) ∧
          dayOfYear year month day = n) ∧
    (∀ year month day : Nat, validDate year month day = true →
      monthAndDay year (dayOfYear year month day) = some (month, day)) ∧
    (∀ year month day year' month' day' : Nat, validDate year month day = true →
      validDate year' month' day' = true →
        compare (ordinal year month day) (ordinal year' month' day') =
          (compare year year').then ((compare month month').then (compare day day'))) ∧
    ∀ n : Nat, 1 ≤ n → n ≤ ordinal maxYear 12 31 →
      ∃ year month day, validDate year month day = true ∧ ordinal year month day = n := by
  refine ⟨?_, ?_, ?_, ?_⟩
  · intro year n
    exact ⟨exists_monthAndDay_iff, fun month day ↦ monthAndDay_eq_some_iff⟩
  · intro year month day h
    exact monthAndDay_dayOfYear h
  · intro year month day year' month' day' h h'
    exact compare_ordinal h h'
  · intro n hpos hle
    exact exists_ordinal hpos hle

/-- The turns of two centuries: 2000 has a day with the number 366 and 1900 has none, and from one
year to the next the numbers go up although the months go down. -/
theorem numbering_exact_centuries :
    monthAndDay 2000 366 = some (12, 31) ∧
      (¬ ∃ month day, monthAndDay 1900 366 = some (month, day)) ∧
      monthAndDay 2000 (dayOfYear 2000 2 29) = some (2, 29) ∧
      compare (ordinal 1999 12 31) (ordinal 2000 1 1) = .lt ∧
      ∃ year month day, validDate year month day = true ∧ ordinal year month day = 730120 := by
  obtain ⟨hyear, hdate, horder, hevery⟩ := numbering_exact
  have hlast : (ordinal maxYear 12 31 : Int) = dayNumber maxYear 12 31 + 1 := ordinal_eq rfl
  have hnumber : dayNumber maxYear 12 31 = 23936165 := rfl
  refine ⟨((hyear 2000 366).2 12 31).2 (by decide), ?_, hdate 2000 2 29 rfl,
    horder 1999 12 31 2000 1 1 rfl rfl, hevery 730120 (by decide) (by omega)⟩
  rw [(hyear 1900 366).1]
  decide

end MariaClient.Calendar
