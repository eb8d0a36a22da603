import MariaClient.Proofs.Temporal.Reached

/-!
# Seconds since 1970 as dates and times

Seconds are broken down into readings by cycles of four hundred years, and they are added to a date
by a walk from year to year.  A break-down that reads the Gregorian calendar and a clock without
leap seconds (`UnixTime.Gregorian`) gives what adding the seconds to the start of 1970 gives, and
fails where that fails (`UnixTime.dateTimeBy_eq_ok_iff`).
-/

namespace MariaClient

/-! ## Cycles of four hundred years -/

namespace Calendar

variable {year month day : Nat}

theorem isLeapYear_mod (year : Nat) : isLeapYear (year % 400) = isLeapYear year := by
  rw [isLeapYear, isLeapYear, Nat.mod_mod, Nat.mod_mod_of_dvd _ (by decide),
    Nat.mod_mod_of_dvd _ (by decide)]

theorem daysInYear_mod (year : Nat) : daysInYear (year % 400) = daysInYear year := by
  rw [daysInYear, daysInYear, isLeapYear_mod]

theorem daysInMonth_mod (year month : Nat) :
    daysInMonth (year % 400) month = daysInMonth year month := by
  simp only [daysInMonth, isLeapYear_mod]

theorem dayOfYear_mod (year month day : Nat) :
    dayOfYear (year % 400) month day = dayOfYear year month day := by
  simp only [dayOfYear, daysBeforeMonth, daysInMonth_mod]

/-- The number of a day of the Gregorian calendar, which goes back from the first day of year 1
without end.  That day has the number zero. -/
def civilDay (year : Int) (month day : Nat) : Int :=
  365 * (year - 1) + (year - 1) / 4 - (year - 1) / 100 + (year - 1) / 400 +
    dayOfYear (year % 400).toNat month day - 1

theorem toNat_mod (year : Nat) : ((year : Int) % 400).toNat = year % 400 := rfl

/-- From year 1 on the days have the numbers of dates. -/
theorem civilDay_natCast (hyear : 1 ≤ year) (hmonth : 1 ≤ month ∧ month ≤ 12) :
    civilDay year month day = dayNumber year month day := by
  rw [dayNumber_eq hyear hmonth.1 hmonth.2, daysBeforeYear_eq hyear, civilDay, toNat_mod,
    dayOfYear_mod]

end Calendar

namespace Temporal.UnixTime

open Calendar DateTime

variable {r : Reading} {breakDown : Int → Option Reading} {seconds : Int} {d : DateTime}

/-! ## Readings -/

/-- The reading shows a second: a day of the Gregorian calendar and a time without a leap second
that are so many seconds after the start of 1970. -/
structure Reading.Shows (r : Reading) (seconds : Int) : Prop where
  month : 1 ≤ r.month ∧ r.month ≤ 12
  day : 1 ≤ r.day ∧ r.day ≤ daysInMonth (r.year % 400).toNat r.month
  clock : r.hour < 24 ∧ r.minute < 60 ∧ r.second < 60 ∧ r.nanosecond = 0
  seconds_eq : (civilDay r.year r.month r.day - civilDay 1970 1 1) * 86400 + r.hour * 3600 +
    r.minute * 60 + r.second = seconds

/-- A break-down of seconds into what they show.  It may fail, but at no second of the years that a
date can have. -/
structure Gregorian (breakDown : Int → Option Reading) : Prop where
  shows {seconds : Int} {r : Reading} : breakDown seconds = some r → r.Shows seconds
  total {seconds : Int} : (civilDay 1 1 1 - civilDay 1970 1 1) * 86400 ≤ seconds →
    seconds < (civilDay (maxYear + 1) 1 1 - civilDay 1970 1 1) * 86400 →
      ∃ r, breakDown seconds = some r

theorem civilDay_epoch : civilDay 1970 1 1 = epochDay := rfl

theorem civilDay_first : civilDay 1 1 1 = 0 := rfl

theorem civilDay_end : civilDay (maxYear + 1) 1 1 = 23936166 := rfl

namespace Reading.Shows

theorem time_eq (h : r.Shows seconds) :
    r.time = { hour := r.hour, minute := r.minute, second := r.second } := by
  rw [Reading.time, TimeOfDay.ofClock, h.clock.2.2.2]
  rfl

theorem valid_time (h : r.Shows seconds) : r.time.Valid ∧ r.time.second < 60 := by
  obtain ⟨hhour, hminute, hsecond, -⟩ := h.clock
  rw [h.time_eq]
  refine ⟨TimeOfDay.valid_iff.2 ⟨hhour, hminute, ?_, Nat.zero_lt_succ _⟩, hsecond⟩
  exact Nat.lt_add_right 2 hsecond

/-- The day and the milliseconds of the day of a second. -/
theorem msOfDay_eq (h : r.Shows seconds) :
    civilDay r.year r.month r.day * msPerDay + r.time.msOfDay =
      epochDay * msPerDay + seconds * msPerSecond := by
  have hseconds := h.seconds_eq
  rw [civilDay_epoch] at hseconds
  rw [h.time_eq]
  simp only [TimeOfDay.msOfDay, msPerDay, msPerHour, msPerMinute, msPerSecond]
  omega

theorem dayOfYear_bounds (h : r.Shows seconds) :
    1 ≤ dayOfYear (r.year % 400).toNat r.month r.day ∧
      dayOfYear (r.year % 400).toNat r.month r.day ≤ 366 := by
  constructor
  · exact Nat.le_trans h.day.1 (Nat.le_add_left _ _)
  · exact Nat.le_trans (dayOfYear_le h.month.1 h.day.1 h.day.2) (daysInYear_bounds _).2

/-- Seconds of the years that a date can have show one of those years. -/
theorem year_bounds (h : r.Shows seconds)
    (hfirst : (civilDay 1 1 1 - civilDay 1970 1 1) * 86400 ≤ seconds)
    (hlast : seconds < (civilDay (maxYear + 1) 1 1 - civilDay 1970 1 1) * 86400) :
    1 ≤ r.year ∧ r.year ≤ maxYear := by
  obtain ⟨hhour, hminute, hsecond, -⟩ := h.clock
  obtain ⟨hpos, hle⟩ := h.dayOfYear_bounds
  have hmost : ((maxYear : Nat) : Int) = 65535 := rfl
  have hday : 0 ≤ civilDay r.year r.month r.day ∧ civilDay r.year r.month r.day < 23936166 := by
    have hseconds := h.seconds_eq
    rw [civilDay_epoch, epochDay] at hseconds hfirst hlast
    rw [civilDay_first] at hfirst
    rw [civilDay_end] at hlast
    omega
  rw [civilDay] at hday
  rw [hmost]
  -- The quotients by 4, 100 and 400 are bounded first, since the day number mixes all of them.
  constructor
  · by_contra hbefore
    have hcenturies : (r.year - 1) / 4 ≤ (r.year - 1) / 100 := by omega
    have hcycles : (r.year - 1) / 400 ≤ -1 := by omega
    omega
  · by_contra hafter
    have hcenturies : 15728 ≤ (r.year - 1) / 4 - (r.year - 1) / 100 := by omega
    have hcycles : 163 ≤ (r.year - 1) / 400 := by omega
    omega

end Reading.Shows

/-! ## The readings of the library -/

/-- Every day falls in one of the four hundred years of its cycle. -/
theorem yearAndDay_spec (n : Int) :
    ∃ year k : Nat, yearAndDay n = (400 * (n / daysInCycle) + year, k) ∧
      FallsOn (n % daysInCycle + 1) year k := by
  have hrange : 0 ≤ n % daysInCycle ∧ n % daysInCycle + 1 ≤ (146097 : Nat) := by
    rw [daysInCycle]
    omega
  have hcycle : daysBeforeYear (400 + 1) = 146097 := rfl
  rw [← hcycle] at hrange
  obtain ⟨year, k, hfalls⟩ := FallsOn.exists_of_le (by omega) hrange.2
  have htotal : (daysBeforeYear 1 : Int) + ((n % daysInCycle).toNat + 1 : Nat) =
      n % daysInCycle + 1 := by
    have hnone : daysBeforeYear 1 = 0 := rfl
    omega
  have hfound : daysForward 1 ((n % daysInCycle).toNat + 1) 399 = some (year, k) := by
    rw [daysForward_eq_some_iff (Nat.le_refl 1) (Nat.le_add_left 1 _), htotal]
    exact ⟨hfalls, hfalls.year_le hrange.2⟩
  refine ⟨year, k, ?_, hfalls⟩
  rw [yearAndDay, hfound]

/-- Within its bounds the library reads every second. -/
theorem exists_reading (hbounds : bounds.1 ≤ seconds ∧ seconds ≤ bounds.2) :
    ∃ r, reading? seconds = some r ∧ r.Shows seconds := by
  obtain ⟨year, k, hfound, hfalls⟩ := yearAndDay_spec (epochDay + seconds / 86400)
  have hmod : ((400 * ((epochDay + seconds / 86400) / daysInCycle) + year) % 400).toNat =
      year % 400 := by omega
  have hlength : k ≤ daysInYear (year % 400) := daysInYear_mod year ▸ hfalls.le
  obtain ⟨month, day, hdate, hmonth, hpos, hday, hnumber⟩ := exists_monthAndDay hfalls.pos hlength
  have hlast : month ≤ 12 := month_le_of_day hpos hday
  have hcivil : civilDay (400 * ((epochDay + seconds / 86400) / daysInCycle) + year) month day =
      epochDay + seconds / 86400 := by
    have htotal := hfalls.total_eq
    rw [daysBeforeYear_eq hfalls.year_pos, daysInCycle] at htotal
    rw [civilDay, hmod, hnumber, daysInCycle]
    omega
  rw [reading?, if_pos hbounds, hfound]
  dsimp only
  rw [hmod, hdate]
  refine ⟨_, rfl, ⟨hmonth, hlast⟩, ⟨hpos, ?_⟩, ?_, ?_⟩
  · dsimp only
    rw [hmod]
    exact hday
  · dsimp only
    omega
  · dsimp only
    rw [hcivil, civilDay_epoch]
    omega

/-- The library reads the Gregorian calendar. -/
theorem gregorian_reading : Gregorian reading? where
  shows {seconds r} h := by
    by_cases hbounds : bounds.1 ≤ seconds ∧ seconds ≤ bounds.2
    · obtain ⟨r', hreading, hshows⟩ := exists_reading hbounds
      rw [hreading] at h
      cases h
      exact hshows
    · rw [reading?, if_neg hbounds] at h
      cases h
  total {seconds} hfirst hlast := by
    rw [civilDay_epoch, civilDay_first, epochDay] at hfirst
    rw [civilDay_epoch, civilDay_end, epochDay] at hlast
    have hbounds : bounds.1 ≤ seconds ∧ seconds ≤ bounds.2 := by
      rw [bounds]
      omega
    obtain ⟨r, hreading, -⟩ := exists_reading hbounds
    exact ⟨r, hreading⟩

/-! ## Dates and times -/

/-- The start of 1970. -/
def epoch : DateTime where
  year := 1970
  month := 1
  day := 1
  time := .midnight

theorem valid_epoch : epoch.Valid :=
  ⟨rfl, rfl⟩

theorem instant_epoch : epoch.instant = epochDay * msPerDay := rfl

theorem year_of_civil {year : Int} {month day : Nat} {time : TimeOfDay}
    (h : DateTime.ofCivil year month day time = .ok d) : 1 ≤ year ∧ year ≤ maxYear := by
  rw [ofCivil] at h
  split at h
  · next hdate =>
    obtain ⟨hfirst, hlast, -⟩ := validDate_spec hdate
    omega
  · next => cases h

/-- The reading of a second in the years that a date can have is a date and time. -/
theorem Reading.Shows.exists_civil (h : r.Shows seconds) (hyear : 1 ≤ r.year ∧ r.year ≤ maxYear) :
    ∃ d, DateTime.ofCivil r.year r.month r.day r.time = .ok d ∧ d.Valid ∧ d.time.second < 60 ∧
      d.instant = epoch.instant + seconds * msPerSecond := by
  obtain ⟨year, hnat⟩ := Int.eq_ofNat_of_zero_le (a := r.year) (by omega)
  have hrange : 1 ≤ year ∧ year ≤ maxYear := by omega
  have hdate : validDate year r.month r.day = true := by
    have hday := h.day.2
    rw [hnat, toNat_mod, daysInMonth_mod] at hday
    rw [validDate_eq hrange h.month.1 h.day.1, decide_eq_true hday]
  refine ⟨{ year, month := r.month, day := r.day, time := r.time }, ?_, ⟨hdate, h.valid_time.1⟩,
    h.valid_time.2, ?_⟩
  · rw [ofCivil, hnat, Int.toNat_natCast, if_pos hdate]
  · have hms := h.msOfDay_eq
    rw [hnat, civilDay_natCast hrange.1 h.month] at hms
    exact hms

section BreakDown

variable (h : Gregorian breakDown)

include h

/-- Where a break-down gives a date and time, it is the one at its second. -/
theorem instant_dateTimeBy (hd : dateTimeBy breakDown seconds = .ok d) :
    d.Valid ∧ d.time.second < 60 ∧ d.instant = epoch.instant + seconds * msPerSecond := by
  rw [dateTimeBy] at hd
  split at hd
  · next => cases hd
  · next r hreading =>
    have hshows := h.shows hreading
    obtain ⟨e, he, hinstant⟩ := hshows.exists_civil (year_of_civil hd)
    rw [he] at hd
    cases hd
    exact hinstant

/-- Seconds whose instant is that of a date and time are broken down to one. -/
theorem exists_dateTimeBy (hfirst : first.instant ≤ epoch.instant + seconds * msPerSecond)
    (hlast : epoch.instant + seconds * msPerSecond ≤ last.instant) :
    ∃ d, dateTimeBy breakDown seconds = .ok d := by
  rw [instant_first, instant_epoch, epochDay, msPerDay, msPerHour, msPerMinute, msPerSecond]
    at hfirst
  rw [last_instant_eq, instant_epoch, epochDay, msPerDay, msPerHour, msPerMinute, msPerSecond]
    at hlast
  have hbegin : (civilDay 1 1 1 - civilDay 1970 1 1) * 86400 ≤ seconds := by
    rw [civilDay_first, civilDay_epoch, epochDay]
    omega
  have hend : seconds < (civilDay (maxYear + 1) 1 1 - civilDay 1970 1 1) * 86400 := by
    rw [civilDay_end, civilDay_epoch, epochDay]
    omega
  obtain ⟨r, hreading⟩ := h.total hbegin hend
  have hshows := h.shows hreading
  obtain ⟨d, hcivil, -⟩ := hshows.exists_civil (hshows.year_bounds hbegin hend)
  refine ⟨d, ?_⟩
  rw [dateTimeBy, hreading]
  exact hcivil

theorem dateTimeBy_eq_ok_iff :
    dateTimeBy breakDown seconds = .ok d ↔
      d.Valid ∧ d.time.second < 60 ∧ d.instant = epoch.instant + seconds * msPerSecond := by
  constructor
  · exact instant_dateTimeBy h
  · rintro ⟨hd, hsecond, hinstant⟩
    obtain ⟨hfirst, hlast⟩ := hd.instant_bounds hsecond
    rw [hinstant] at hfirst hlast
    obtain ⟨e, he⟩ := exists_dateTimeBy h hfirst hlast
    obtain ⟨hevalid, hesecond, heinstant⟩ := instant_dateTimeBy h he
    rw [instant_unique hd hevalid hsecond hesecond (hinstant.trans heinstant.symm)]
    exact he

/-- The time of day at a second is what is left of its instant without the whole days, also outside
the years that a date can have. -/
theorem timeOfDayBy_eq {t : TimeOfDay} (ht : timeOfDayBy breakDown seconds = .ok t) :
    t.Valid ∧ t.second < 60 ∧
      (t.msOfDay : Int) = (epoch.instant + seconds * msPerSecond) % msPerDay := by
  rw [timeOfDayBy] at ht
  split at ht
  · next => cases ht
  · next r hreading =>
    cases ht
    have hshows := h.shows hreading
    obtain ⟨hvalid, hsecond⟩ := hshows.valid_time
    have hday := hvalid.msOfDay_lt_of_second hsecond
    refine ⟨hvalid, hsecond, ?_⟩
    rw [instant_epoch, ← hshows.msOfDay_eq, Int.add_comm, Int.add_mul_emod_self_right,
      Int.emod_eq_of_lt (by omega) (by omega)]

/-- A break-down of seconds that reads the Gregorian calendar lands where adding the seconds to the
start of 1970 does.  It gives a date and time exactly at the seconds of the years that a date can
have, and a time of day is that of its instant. -/
theorem broken_down_as_added (seconds : Int) :
    ((∃ d, dateTimeBy breakDown seconds = .ok d) ↔
      first.instant ≤ epoch.instant + seconds * msPerSecond ∧
        epoch.instant + seconds * msPerSecond ≤ last.instant) ∧
    (∀ d, dateTimeBy breakDown seconds = .ok d ↔ epoch.addSeconds seconds = .ok d) ∧
    ∀ t, timeOfDayBy breakDown seconds = .ok t →
      t.Valid ∧ t.second < 60 ∧
        (t.msOfDay : Int) = (epoch.instant + seconds * msPerSecond) % msPerDay := by
  refine ⟨?_, ?_, ?_⟩
  · constructor
    · rintro ⟨d, hd⟩
      obtain ⟨hvalid, hsecond, hinstant⟩ := instant_dateTimeBy h hd
      exact hinstant ▸ hvalid.instant_bounds hsecond
    · rintro ⟨hfirst, hlast⟩
      exact exists_dateTimeBy h hfirst hlast
  · intro d
    have hadded : epoch.addSeconds seconds = .ok d ↔ _ :=
      Amount.addTo_eq_ok_iff_of_second (a := .seconds seconds) valid_epoch (by decide)
    exact (dateTimeBy_eq_ok_iff h).trans hadded.symm
  · intro t ht
    exact timeOfDayBy_eq h ht

end BreakDown

/-- The library's own date and time at a second is the valid one, without a leap second, whose
instant is so many seconds after the start of 1970. -/
theorem dateTime_eq_ok_iff :
    dateTime seconds = .ok d ↔
      d.Valid ∧ d.time.second < 60 ∧ d.instant = epoch.instant + seconds * msPerSecond :=
  dateTimeBy_eq_ok_iff gregorian_reading

/-- The readings of the library around the first second of year 1, before which there is a time of
day but no date. -/
theorem broken_down_as_added_firstYear :
    let t : TimeOfDay := { hour := 23, minute := 59, second := 59 }
    Gregorian reading? ∧ dateTimeBy reading? (-62135596800) = .ok first ∧
      epoch.addSeconds (-62135596800) = .ok first ∧
      (¬ ∃ d, dateTimeBy reading? (-62135596801) = .ok d) ∧
      timeOfDayBy reading? (-62135596801) = .ok t ∧
      (t.msOfDay : Int) = (epoch.instant + -62135596801 * msPerSecond) % msPerDay := by
  intro t
  have hfirst : dateTimeBy reading? (-62135596800) = .ok first := by decide +kernel
  have htime : timeOfDayBy reading? (-62135596801) = .ok t := by decide +kernel
  obtain ⟨-, hadded, -⟩ := broken_down_as_added gregorian_reading (-62135596800)
  obtain ⟨hexists, -, hclock⟩ := broken_down_as_added gregorian_reading (-62135596801)
  refine ⟨gregorian_reading, hfirst, (hadded first).1 hfirst, ?_, htime, (hclock t htime).2.2⟩
  rw [hexists]
  decide

end Temporal.UnixTime

end MariaClient
