import MariaClient.Proofs.Calendar.DayNumber
import MariaClient.Temporal.DateTime

/-!
# Dates with a time as instants

A date with a time stands at an instant, the milliseconds since the start of year 1.  Leap seconds
aside, there is one date with a time at every instant of the years that a date can have
(`DateTime.instant_unique`, `DateTime.exists_instant`).  So arithmetic is told by what it does to
the number of the date (`DateTime.addDays_eq_ok_iff`) and to the instant
(`DateTime.addMilliseconds_eq_ok_iff`).
-/

namespace MariaClient.Temporal

open Calendar Text

/-! ## Times of day -/

namespace TimeOfDay

/-- Each number of the time is in its range. -/
def Valid (t : TimeOfDay) : Prop :=
  valid t.hour t.minute t.second t.millisecond = true

variable {t : TimeOfDay} {ms : Int}

theorem valid_iff :
    t.Valid ↔ t.hour < 24 ∧ t.minute < 60 ∧ t.second < 62 ∧ t.millisecond < 1000 := by
  simp only [Valid, valid, Bool.and_eq_true, decide_eq_true_eq, and_assoc]

theorem valid_ofMsOfDay (ms : Int) : (ofMsOfDay ms).Valid := by
  rw [valid_iff]
  simp only [ofMsOfDay, msPerDay, msPerHour, msPerMinute, msPerSecond]
  omega

theorem second_ofMsOfDay_lt (ms : Int) : (ofMsOfDay ms).second < 60 := by
  simp only [ofMsOfDay, msPerDay, msPerHour, msPerMinute, msPerSecond]
  omega

theorem msOfDay_ofMsOfDay (ms : Int) : ((ofMsOfDay ms).msOfDay : Int) = ms % msPerDay := by
  simp only [msOfDay, ofMsOfDay, msPerDay, msPerHour, msPerMinute, msPerSecond]
  omega

theorem ofMsOfDay_congr {ms' : Int} (h : ms % msPerDay = ms' % msPerDay) :
    ofMsOfDay ms = ofMsOfDay ms' := by
  rw [ofMsOfDay, ofMsOfDay, h]

/-- Leap seconds run at most two seconds past the end of the day. -/
theorem Valid.msOfDay_lt (h : t.Valid) : t.msOfDay < msPerDay + 2000 := by
  have hlt := valid_iff.1 h
  simp only [msOfDay, msPerDay, msPerHour, msPerMinute, msPerSecond]
  omega

theorem Valid.msOfDay_lt_of_second (h : t.Valid) (hsecond : t.second < 60) :
    t.msOfDay < msPerDay := by
  have hlt := valid_iff.1 h
  simp only [msOfDay, msPerDay, msPerHour, msPerMinute, msPerSecond]
  omega

/-- A time without a leap second is told by its milliseconds. -/
theorem Valid.ofMsOfDay_msOfDay (h : t.Valid) (hsecond : t.second < 60) :
    ofMsOfDay t.msOfDay = t := by
  obtain ⟨hour, minute, second, millisecond⟩ := t
  obtain ⟨hhour, hminute, -, hmillisecond⟩ := valid_iff.1 h
  dsimp only at hhour hminute hmillisecond hsecond
  simp only [msOfDay, ofMsOfDay, msPerDay, msPerHour, msPerMinute, msPerSecond,
    TimeOfDay.mk.injEq]
  omega

end TimeOfDay

/-! ## Days -/

/-- The `n`-th day of a year is the day with the given number, where the first of all days has the
number one. -/
structure FallsOn (total : Int) (year n : Nat) : Prop where
  year_pos : 1 ≤ year
  pos : 1 ≤ n
  le : n ≤ daysInYear year
  total_eq : daysBeforeYear year + n = total

namespace FallsOn

variable {total : Int} {year year' n n' : Nat}

theorem unique (h : FallsOn total year n) (h' : FallsOn total year' n') :
    year = year' ∧ n = n' := by
  have heq := h.total_eq.trans h'.total_eq.symm
  exact year_unique h.year_pos h'.year_pos h.pos h'.pos h.le h'.le (by exact_mod_cast heq)

theorem total_le (h : FallsOn total year n) : total ≤ daysBeforeYear (year + 1) := by
  have hnext := daysBeforeYear_succ h.year_pos
  have hle := h.le
  have htotal := h.total_eq
  omega

/-- A day up to the end of a year falls in no later one. -/
theorem year_le (h : FallsOn total year n) (hle : total ≤ daysBeforeYear (year' + 1)) :
    year ≤ year' := by
  by_contra hlater
  have hbefore : daysBeforeYear (year' + 1) ≤ daysBeforeYear year :=
    daysBeforeYear_le (Nat.lt_of_not_le hlater)
  have hpos := h.pos
  have htotal := h.total_eq
  omega

/-- Every day up to the end of a year falls in some year. -/
theorem exists_of_le (hpos : 1 ≤ total) (hle : total ≤ daysBeforeYear (year + 1)) :
    ∃ year' n, FallsOn total year' n := by
  induction year with
  | zero =>
    have hnone : daysBeforeYear (0 + 1) = 0 := rfl
    omega
  | succ year ih =>
    by_cases hearlier : total ≤ daysBeforeYear (year + 1)
    · exact ih hearlier
    · have hnext := daysBeforeYear_succ (Nat.le_add_left 1 year)
      exact ⟨year + 1, (total - daysBeforeYear (year + 1)).toNat, by omega, by omega, by omega,
        by omega⟩

/-- The date of a day of a year. -/
theorem ofDayOfYear_eq (h : FallsOn total year n) (hlast : year ≤ maxYear) :
    ∃ month day, DateTime.ofDayOfYear year n = .ok { year, month, day, time := .midnight } ∧
      validDate year month day = true ∧ Calendar.dayNumber year month day = total - 1 := by
  obtain ⟨month, day, hfound, hvalid, hnumber⟩ :=
    monthAndDay_spec h.year_pos hlast h.pos h.le
  refine ⟨month, day, ?_, hvalid, ?_⟩
  · rw [DateTime.ofDayOfYear, hfound]
    exact if_pos (Bool.and_eq_true_iff.2 ⟨hvalid, rfl⟩)
  · rw [dayNumber_of_validDate hvalid, hnumber, h.total_eq]

end FallsOn

namespace DateTime

/-- A date that exists with a time of day. -/
structure Valid (d : DateTime) : Prop where
  date : validDate d.year d.month d.day = true
  time : d.time.Valid

/-- The days from the start of year 1 to a date. -/
def dayNumber (d : DateTime) : Int :=
  Calendar.dayNumber d.year d.month d.day

/-- The milliseconds from the start of year 1 to a date with its time. -/
def instant (d : DateTime) : Int :=
  d.dayNumber * msPerDay + d.time.msOfDay

/-- The start of year 1. -/
def first : DateTime :=
  { year := 1, month := 1, day := 1, time := .midnight }

/-- The last millisecond of the last year that a date can have. -/
def last : DateTime :=
  { year := maxYear
    month := 12
    day := 31
    time := { hour := 23, minute := 59, second := 59, millisecond := 999 } }

variable {d e : DateTime} {n : Int}

theorem fallsOn (h : validDate d.year d.month d.day = true) :
    FallsOn (d.dayNumber + 1) d.year d.dayOfYear := by
  obtain ⟨hyear, -, -, -, -, -, hpos, hle⟩ := validDate_spec h
  have hnumber := dayNumber_of_validDate h
  exact ⟨hyear, hpos, hle, by rw [dayNumber, hnumber, dayOfYear]; omega⟩

theorem dayNumber_first : first.dayNumber = 0 := rfl

/-- The days of the years that a date can have. -/
theorem daysBeforeYear_last : (daysBeforeYear (maxYear + 1) : Int) = last.dayNumber + 1 := rfl

theorem dayNumber_nonneg (h : validDate d.year d.month d.day = true) : 0 ≤ d.dayNumber := by
  have hpos := (fallsOn h).pos
  have htotal := (fallsOn h).total_eq
  omega

theorem dayNumber_le_last (h : validDate d.year d.month d.day = true) :
    d.dayNumber ≤ last.dayNumber := by
  have hle : d.year ≤ maxYear := (validDate_spec h).2.1
  have htotal := (fallsOn h).total_le
  have hbefore : daysBeforeYear (d.year + 1) ≤ daysBeforeYear (maxYear + 1) :=
    daysBeforeYear_le (Nat.succ_le_succ hle)
  have hlast := daysBeforeYear_last
  omega

/-- Every number from that of the first day to that of the last is the number of a date. -/
theorem exists_dayNumber (hpos : 0 ≤ n) (hle : n ≤ last.dayNumber) (time : TimeOfDay) :
    ∃ e : DateTime, validDate e.year e.month e.day = true ∧ e.dayNumber = n ∧ e.time = time := by
  have htotal : n + 1 ≤ daysBeforeYear (maxYear + 1) := daysBeforeYear_last ▸ by omega
  obtain ⟨year, k, h⟩ := FallsOn.exists_of_le (by omega) htotal
  obtain ⟨month, day, -, hvalid, hnumber⟩ := h.ofDayOfYear_eq (h.year_le htotal)
  exact ⟨{ year, month, day, time }, hvalid, by rw [dayNumber, hnumber]; omega, rfl⟩

theorem eq_of_dayNumber_eq (hd : validDate d.year d.month d.day = true)
    (he : validDate e.year e.month e.day = true) (hnumber : d.dayNumber = e.dayNumber)
    (htime : d.time = e.time) : d = e := by
  obtain ⟨hyear, hmonth, hday⟩ := date_unique hd he hnumber
  cases d
  cases e
  simp_all

/-! ## Days added -/

/-- The walk to later years finds the day unless it falls past the last of them. -/
theorem daysForward_eq_some_iff {left : Nat} :
    ∀ {year n y k : Nat}, 1 ≤ year → 1 ≤ n →
      (daysForward year n left = some (y, k) ↔
        FallsOn (daysBeforeYear year + n) y k ∧ y ≤ year + left) := by
  have hhere {year n y k left : Nat} (hyear : 1 ≤ year) (hn : 1 ≤ n)
      (hle : n ≤ daysInYear year) :
      some (year, n) = some (y, k) ↔
        FallsOn (daysBeforeYear year + n) y k ∧ y ≤ year + left := by
    have hfalls : FallsOn (daysBeforeYear year + n) year n := ⟨hyear, hn, hle, rfl⟩
    rw [Option.some_inj, Prod.mk.injEq]
    constructor
    · rintro ⟨rfl, rfl⟩
      exact ⟨hfalls, Nat.le_add_right _ _⟩
    · rintro ⟨h, -⟩
      exact hfalls.unique h
  induction left with
  | zero =>
    rintro year n y k hyear hn
    rw [daysForward]
    split
    · next hle => exact hhere hyear hn hle
    · next hle =>
      constructor
      · rintro ⟨⟩
      · rintro ⟨h, hlast⟩
        have hend : daysBeforeYear (y + 1) ≤ daysBeforeYear (year + 1) :=
          daysBeforeYear_le (Nat.succ_le_succ hlast)
        have htotal := h.total_le
        have hnext := daysBeforeYear_succ hyear
        omega
  | succ left ih =>
    rintro year n y k hyear hn
    rw [daysForward]
    split
    · next hle => exact hhere hyear hn hle
    · next hle =>
      have htotal : ((daysBeforeYear (year + 1) : Int) + (n - daysInYear year : Nat)) =
          daysBeforeYear year + n := by
        have hnext := daysBeforeYear_succ hyear
        omega
      rw [ih (Nat.le_add_left 1 year) (by omega), htotal, Nat.add_right_comm year 1 left,
        Nat.add_assoc year left 1]

/-- The walk to earlier years finds the day unless it falls before the first of them. -/
theorem daysBackward_eq_some_iff {year : Nat} :
    ∀ {n : Int} {y k : Nat}, n ≤ daysInYear (year + 1) →
      (daysBackward (year + 1) n = some (y, k) ↔ FallsOn (daysBeforeYear (year + 1) + n) y k) := by
  have hhere {year y k : Nat} {n : Int} (hn : 1 ≤ n) (hle : n ≤ daysInYear (year + 1)) :
      some (year + 1, n.toNat) = some (y, k) ↔ FallsOn (daysBeforeYear (year + 1) + n) y k := by
    have hfalls : FallsOn (daysBeforeYear (year + 1) + n) (year + 1) n.toNat :=
      ⟨Nat.le_add_left 1 year, by omega, by omega, by omega⟩
    rw [Option.some_inj, Prod.mk.injEq]
    constructor
    · rintro ⟨rfl, rfl⟩
      exact hfalls
    · exact hfalls.unique
  induction year with
  | zero =>
    rintro n y k hle
    rw [daysBackward]
    split
    · next hn => exact hhere hn hle
    · next hn =>
      constructor
      · rintro ⟨⟩
      · rintro h
        have hnone : daysBeforeYear (0 + 1) = 0 := rfl
        have hpos := h.pos
        have htotal := h.total_eq
        omega
  | succ year ih =>
    rintro n y k hle
    rw [daysBackward]
    split
    · next hn => exact hhere hn hle
    · next hn =>
      have htotal : (daysBeforeYear (year + 1) : Int) + (n + daysInYear (year + 1)) =
          daysBeforeYear (year + 1 + 1) + n := by
        have hnext := daysBeforeYear_succ (Nat.le_add_left 1 year)
        omega
      rw [ih (by omega), htotal]

/-- The year and the place in it of the day that is number `target` of the year of a date. -/
def walk (d : DateTime) (target : Int) : Option (Nat × Nat) :=
  if 1 ≤ target then daysForward d.year target.toNat (maxYear - d.year)
  else daysBackward d.year target

theorem addDays_eq (d : DateTime) {n : Int} (hn : n ≠ 0) :
    d.addDays n =
      if fitsSigned 64 (d.dayOfYear + n) then
        match d.walk (d.dayOfYear + n) with
        | none => .error (d.outOfYears (if 0 < n then maxYear + 1 else 0))
        | some (year, k) => (ofDayOfYear year k).map fun date ↦ { date with time := d.time }
      else .error (d.outOfYears (if 0 < n then unboundedYear else 0)) := by
  rw [addDays, if_neg hn, walk]
  dsimp only
  cases fitsSigned 64 (d.dayOfYear + n) with
  | false => rfl
  | true => rfl

theorem walk_eq_some_iff (h : validDate d.year d.month d.day = true) {target : Int} {y k : Nat} :
    d.walk target = some (y, k) ↔
      FallsOn (daysBeforeYear d.year + target) y k ∧ y ≤ maxYear := by
  obtain ⟨hyear, hlast, -⟩ := validDate_spec h
  rw [walk]
  split
  · next htarget =>
    rw [daysForward_eq_some_iff hyear (by omega), Int.toNat_of_nonneg (by omega),
      Nat.add_sub_of_le hlast]
  · next htarget =>
    obtain ⟨years, hyears⟩ := Nat.exists_eq_add_of_le' hyear
    rw [hyears, daysBackward_eq_some_iff (by omega), ← hyears, iff_self_and]
    rintro hfalls
    refine Nat.le_trans (hfalls.year_le ?_) hlast
    have hnext := daysBeforeYear_succ hyear
    omega

/-- Adding days moves the number of the date and keeps the time, and fails only where there is no
date with that number. -/
theorem addDays_eq_ok_iff (hd : validDate d.year d.month d.day = true) :
    d.addDays n = .ok e ↔
      validDate e.year e.month e.day = true ∧ e.dayNumber = d.dayNumber + n ∧ e.time = d.time := by
  by_cases hn : n = 0
  · rw [addDays, if_pos hn, Except.ok.injEq, hn, add_zero]
    constructor
    · rintro rfl
      exact ⟨hd, rfl, rfl⟩
    · rintro ⟨he, hnumber, htime⟩
      exact eq_of_dayNumber_eq hd he hnumber.symm htime.symm
  have htotal : daysBeforeYear d.year + (d.dayOfYear + n) = d.dayNumber + n + 1 := by
    have htotal := (fallsOn hd).total_eq
    omega
  have hfits (he : validDate e.year e.month e.day = true)
      (hnumber : e.dayNumber = d.dayNumber + n) : fitsSigned 64 (d.dayOfYear + n) = true := by
    have hpos := dayNumber_nonneg he
    have hle := dayNumber_le_last he
    have hbefore := daysBeforeYear_le (validDate_spec hd).2.1
    have hlast : last.dayNumber = 23936165 := rfl
    have hmost : daysBeforeYear maxYear = 23935801 := rfl
    rw [fitsSigned_iff]
    omega
  rw [addDays_eq d hn]
  split
  · cases hwalk : d.walk (d.dayOfYear + n) with
    | none =>
      constructor
      · rintro ⟨⟩
      · rintro ⟨he, hnumber, -⟩
        have hfound := (walk_eq_some_iff hd).2
          ⟨htotal ▸ hnumber ▸ fallsOn he, (validDate_spec he).2.1⟩
        rw [hwalk] at hfound
        cases hfound
    | some found =>
      obtain ⟨year, k⟩ := found
      obtain ⟨hfalls, hlast⟩ := (walk_eq_some_iff hd).1 hwalk
      obtain ⟨month, day, hdate, hvalid, hfound⟩ := hfalls.ofDayOfYear_eq hlast
      have hnumber : ({ year, month, day, time := d.time } : DateTime).dayNumber =
          d.dayNumber + n := by
        rw [dayNumber, hfound, htotal, add_sub_cancel_right]
      dsimp only
      rw [hdate]
      constructor
      · rintro ⟨⟩
        exact ⟨hvalid, hnumber, rfl⟩
      · rintro ⟨he, heq, htime⟩
        exact congrArg _ (eq_of_dayNumber_eq hvalid he (hnumber.trans heq.symm) htime.symm)
  · next hout =>
    constructor
    · rintro ⟨⟩
    · rintro ⟨he, hnumber, -⟩
      exact absurd (hfits he hnumber) hout

/-! ## Milliseconds added -/

theorem instant_first : first.instant = 0 := rfl

theorem instant_last : last.instant = (last.dayNumber + 1) * msPerDay - 1 := by
  have htime : last.time.msOfDay = msPerDay - 1 := rfl
  rw [instant, htime]
  simp only [msPerDay, msPerHour, msPerMinute, msPerSecond]
  omega

/-- Without leap seconds a date with a time stands within the years that a date can have. -/
theorem Valid.instant_bounds (h : e.Valid) (hsecond : e.time.second < 60) :
    first.instant ≤ e.instant ∧ e.instant ≤ last.instant := by
  have hpos := dayNumber_nonneg h.date
  have hle := dayNumber_le_last h.date
  have hday := h.time.msOfDay_lt_of_second hsecond
  rw [instant_first, instant_last, instant]
  simp only [msPerDay, msPerHour, msPerMinute, msPerSecond] at hday ⊢
  omega

/-- Every instant of those years is that of a date with a time. -/
theorem exists_instant (hfirst : first.instant ≤ n) (hlast : n ≤ last.instant) :
    ∃ e : DateTime, e.Valid ∧ e.time.second < 60 ∧ e.instant = n := by
  rw [instant_first] at hfirst
  rw [instant_last] at hlast
  have hday : 0 ≤ n / msPerDay ∧ n / msPerDay ≤ last.dayNumber := by
    simp only [msPerDay, msPerHour, msPerMinute, msPerSecond] at hlast ⊢
    omega
  obtain ⟨e, hdate, hnumber, htime⟩ := exists_dayNumber hday.1 hday.2 (.ofMsOfDay n)
  refine ⟨e, ⟨hdate, htime ▸ TimeOfDay.valid_ofMsOfDay n⟩,
    htime ▸ TimeOfDay.second_ofMsOfDay_lt n, ?_⟩
  rw [instant, hnumber, htime, TimeOfDay.msOfDay_ofMsOfDay]
  exact Int.ediv_mul_add_emod n msPerDay

/-- The date and the milliseconds of the day of an instant. -/
theorem Valid.instant_split (h : e.Valid) (hsecond : e.time.second < 60) :
    e.dayNumber = e.instant / msPerDay ∧ e.time = .ofMsOfDay e.instant := by
  have hday := h.time.msOfDay_lt_of_second hsecond
  have hmod : e.instant % msPerDay = e.time.msOfDay := by
    simp only [instant, msPerDay, msPerHour, msPerMinute, msPerSecond] at hday ⊢
    omega
  constructor
  · simp only [instant, msPerDay, msPerHour, msPerMinute, msPerSecond] at hday ⊢
    omega
  · have hsmall : (e.time.msOfDay : Int) % msPerDay = e.time.msOfDay :=
      Int.emod_eq_of_lt (by omega) (by omega)
    rw [TimeOfDay.ofMsOfDay_congr (hmod.trans hsmall.symm), h.time.ofMsOfDay_msOfDay hsecond]

/-- Leap seconds aside, a date with a time is told by its instant. -/
theorem instant_unique (hd : d.Valid) (he : e.Valid) (hdsecond : d.time.second < 60)
    (hesecond : e.time.second < 60) (h : d.instant = e.instant) : d = e := by
  obtain ⟨hdnumber, hdtime⟩ := hd.instant_split hdsecond
  obtain ⟨henumber, hetime⟩ := he.instant_split hesecond
  rw [h] at hdnumber hdtime
  exact eq_of_dayNumber_eq hd.date he.date (hdnumber.trans henumber.symm)
    (hdtime.trans hetime.symm)

theorem addMilliseconds_eq (d : DateTime) (hn : n ≠ 0) :
    d.addMilliseconds n =
      if fitsSigned 64 (d.time.msOfDay + n) then
        (d.addDays ((d.time.msOfDay + n) / msPerDay)).map fun e ↦
          { e with time := .ofMsOfDay ((d.time.msOfDay + n) % msPerDay) }
      else .error (d.outOfYears unboundedYear) := by
  rw [addMilliseconds, if_neg hn]
  dsimp only
  cases fitsSigned 64 (d.time.msOfDay + n) with
  | false => rfl
  | true => rfl

/-- A date with a time is not far from another. -/
theorem natAbs_le_of_instant (hd : d.Valid) (he : e.Valid) (hsecond : e.time.second < 60)
    (h : e.instant = d.instant + n) : (n.natAbs : Int) ≤ last.instant + 2000 := by
  obtain ⟨hfirst, hlast⟩ := he.instant_bounds hsecond
  have hpos := dayNumber_nonneg hd.date
  have hle := dayNumber_le_last hd.date
  have hday := hd.time.msOfDay_lt
  rw [instant_first] at hfirst
  rw [instant_last] at hlast ⊢
  simp only [instant.eq_1 d, msPerDay, msPerHour, msPerMinute, msPerSecond] at h hlast hday ⊢
  omega

theorem last_instant_eq : last.instant = 2068084742399999 := by
  have hnumber : last.dayNumber = 23936165 := rfl
  rw [instant_last, hnumber]
  rfl

/-- Adding milliseconds moves the instant to that of the result, which has no leap second, and fails
only where no date with a time stands there. -/
theorem addMilliseconds_eq_ok_iff (hd : d.Valid) (hn : n ≠ 0) :
    d.addMilliseconds n = .ok e ↔
      e.Valid ∧ e.time.second < 60 ∧ e.instant = d.instant + n := by
  rw [addMilliseconds_eq d hn]
  split
  · next hfits =>
    have hinstant : d.instant + n = d.dayNumber * msPerDay + (d.time.msOfDay + n) := by
      rw [instant, add_assoc]
    rw [hinstant]
    generalize (d.time.msOfDay + n : Int) = total
    constructor
    · rintro h
      cases hadd : d.addDays (total / msPerDay) with
      | error => rw [hadd] at h; cases h
      | ok moved =>
        rw [hadd] at h
        cases h
        obtain ⟨hdate, hnumber, -⟩ := (addDays_eq_ok_iff hd.date).1 hadd
        refine ⟨⟨hdate, TimeOfDay.valid_ofMsOfDay _⟩, TimeOfDay.second_ofMsOfDay_lt _, ?_⟩
        have hmoved : Calendar.dayNumber moved.year moved.month moved.day =
            d.dayNumber + total / msPerDay := hnumber
        rw [instant, dayNumber, hmoved, TimeOfDay.msOfDay_ofMsOfDay, Int.emod_emod, add_mul,
          add_assoc, Int.ediv_mul_add_emod]
    · rintro ⟨he, hsecond, hinstant⟩
      obtain ⟨hnumber, htime⟩ := he.instant_split hsecond
      have hquotient : e.dayNumber = d.dayNumber + total / msPerDay := by
        rw [hnumber, hinstant, add_comm, Int.add_mul_ediv_right _ _ (by decide), add_comm]
      have hremainder : e.time = .ofMsOfDay (total % msPerDay) := by
        rw [htime, hinstant]
        exact TimeOfDay.ofMsOfDay_congr
          (by rw [Int.emod_emod, add_comm, Int.add_mul_emod_self_right])
      have hadd : d.addDays (total / msPerDay) = .ok { e with time := d.time } :=
        (addDays_eq_ok_iff hd.date).2 ⟨he.date, hquotient, rfl⟩
      rw [hadd, ← hremainder]
      rfl
  · next hout =>
    constructor
    · rintro ⟨⟩
    · rintro ⟨he, hsecond, hinstant⟩
      have hday : d.time.msOfDay < 86402000 := hd.time.msOfDay_lt
      have hnear := natAbs_le_of_instant hd he hsecond hinstant
      rw [last_instant_eq] at hnear
      refine absurd ?_ hout
      rw [fitsSigned_iff]
      omega

end DateTime

end MariaClient.Temporal
