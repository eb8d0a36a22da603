import MariaClient.Proofs.Temporal.Assignment
import MariaClient.Proofs.Temporal.Translation
import MariaClient.Temporal.UnixTime

/-!
# The dates and times that a program can come to

Dates and times are made of numbers, texts, wire values, timestamps and clocks, and then changed in
place and added to.  Each of these ways checks what it makes or carries it into its range, so that
whatever a program does with them it only ever holds dates and times that exist (`Reached.valid`).
-/

namespace MariaClient.Temporal

open Calendar

/-! ## Clocks -/

/-- A reading whose clock shows numbers that a clock can show. -/
structure ClockReading extends UnixTime.Reading where
  hour_lt : hour < 24 := by decide
  minute_lt : minute < 60 := by decide
  second_lt : second < 60 := by decide
  nanosecond_lt : nanosecond < 2000000000 := by decide
  leap : 1000000000 ≤ nanosecond → second = 59 := by decide

theorem ClockReading.valid_time (r : ClockReading) : r.time.Valid := by
  have hhour := r.hour_lt
  have hminute := r.minute_lt
  have hsecond := r.second_lt
  have hnanosecond := r.nanosecond_lt
  rw [UnixTime.Reading.time, TimeOfDay.ofClock]
  split
  · next hordinary =>
    refine TimeOfDay.valid_iff.2 ⟨hhour, hminute, Nat.lt_add_right 2 hsecond, ?_⟩
    dsimp only
    omega
  · next hleap =>
    refine TimeOfDay.valid_iff.2 ⟨hhour, hminute, Nat.succ_lt_succ (Nat.lt_succ_of_lt hsecond), ?_⟩
    dsimp only
    omega

/-! ## Times of day -/

namespace TimeOfDay

/-- A time of day that is made from something else. -/
inductive Made : TimeOfDay → Prop
  | numbers {hour minute second millisecond : Nat} {t : TimeOfDay}
    (h : of hour minute second millisecond = .ok t) : Made t
  | text {s : String} {t : TimeOfDay} (h : parse s = .ok t) : Made t
  | wire {w : WireTime} {t : TimeOfDay} (h : ofWire w = .ok t) : Made t
  | timestamp {seconds : Int} {t : TimeOfDay} (h : UnixTime.timeOfDay seconds = .ok t) : Made t
  | clock (r : ClockReading) : Made r.time
  | midnight : Made .midnight

/-- What can be added to a time of day. -/
inductive Amount
  | hours (n : Int)
  | minutes (n : Int)
  | seconds (n : Int)
  | milliseconds (n : Int)
  /-- A span with its sign. -/
  | span (s : Span)
  /-- A span in the direction against its sign. -/
  | spanBack (s : Span)

/-- Adds the amount around the day. -/
def Amount.addTo (t : TimeOfDay) : Amount → TimeOfDay
  | hours n => t.addHours n
  | minutes n => t.addMinutes n
  | seconds n => t.addSeconds n
  | milliseconds n => t.addMilliseconds n
  | span s => t.add s
  | spanBack s => t.subtract s

variable {t : TimeOfDay}

theorem valid_of_ok {hour minute second millisecond : Nat}
    (h : of hour minute second millisecond = .ok t) : t.Valid := by
  rw [of] at h
  split at h
  · next hvalid =>
    cases h
    exact hvalid
  · next => cases h

theorem valid_of_reading {seconds : Int} {r : UnixTime.Reading}
    (h : UnixTime.reading? seconds = some r) : r.time.Valid := by
  rw [UnixTime.reading?] at h
  split at h
  · next hbounds =>
    obtain ⟨⟨month, day⟩, -, rfl⟩ := Option.map_eq_some_iff.1 h
    refine valid_iff.2 ?_
    dsimp only [UnixTime.Reading.time, ofClock]
    rw [if_pos (by decide)]
    dsimp only
    omega
  · next => cases h

theorem Made.valid (h : Made t) : t.Valid := by
  cases h with
  | numbers h => exact valid_of_ok h
  | @text s t h =>
    rw [parse] at h
    cases hread : Reader.time s with
    | error e => rw [hread] at h; cases h
    | ok f =>
      rw [hread] at h
      exact valid_of_ok h
  | wire h => exact valid_of_ok h
  | timestamp h =>
    rw [UnixTime.timeOfDay, UnixTime.timeOfDayBy] at h
    split at h
    · next => cases h
    · next hreading =>
      cases h
      exact valid_of_reading hreading
  | clock r => exact r.valid_time
  | midnight => exact valid_iff.2 (by decide)

theorem Valid.shift (h : t.Valid) (ms : Int) : (t.shift ms).Valid := by
  rw [TimeOfDay.shift]
  split
  · next => exact h
  · next => exact valid_ofMsOfDay _

theorem Valid.add (h : t.Valid) (s : Span) : (t.add s).Valid :=
  (((h.shift _).shift _).shift _).shift _

theorem Valid.addTo (h : t.Valid) (a : Amount) : (a.addTo t).Valid := by
  cases a with
  | hours n => exact h.shift _
  | minutes n => exact h.shift _
  | seconds n => exact h.shift _
  | milliseconds n => exact h.shift _
  | span s => exact h.add s
  | spanBack s => exact h.add s.flip

theorem Valid.set {u : TimeOfDay} {f : TimeField} {n : Nat} (h : f.set t n = .ok u) : u.Valid := by
  obtain ⟨hvalid, rfl⟩ := TimeField.set_eq_ok_iff.1 h
  exact hvalid

end TimeOfDay

/-! ## Dates -/

theorem le_daysInMonth (year : Nat) {month : Nat} (hmonth : 1 ≤ month ∧ month ≤ 12) :
    28 ≤ daysInMonth year month := by
  have hfebruary : 28 ≤ (if isLeapYear year then 29 else 28) := by split <;> decide
  obtain ⟨hfirst, hlast⟩ := hmonth
  interval_cases month <;>
    first | exact hfebruary | exact Nat.le_add_left 28 2 | exact Nat.le_add_left 28 3

theorem one_le_daysInMonth (year : Nat) {month : Nat} (hmonth : 1 ≤ month ∧ month ≤ 12) :
    1 ≤ daysInMonth year month :=
  Nat.le_trans (by decide) (le_daysInMonth year hmonth)

/-- The day of a change of the month or the year exists: one that the month does not have becomes
the first. -/
theorem validDate_resetDay {year month day : Nat} (hyear : 1 ≤ year ∧ year ≤ maxYear)
    (hmonth : 1 ≤ month ∧ month ≤ 12) :
    validDate year month (if validDate year month day then day else 1) = true := by
  split
  · next hday => exact hday
  · next =>
    simp only [validDate, hyear.1, hyear.2, hmonth.1, one_le_daysInMonth year hmonth, decide_true,
      Bool.and_true, Nat.le_refl]

/-- Of a month and a year that exist, the days that exist are those that the month has. -/
theorem validDate_eq {year month day : Nat} (hyear : 1 ≤ year ∧ year ≤ maxYear) (hmonth : 1 ≤ month)
    (hday : 1 ≤ day) : validDate year month day = decide (day ≤ daysInMonth year month) := by
  simp only [validDate, hyear.1, hyear.2, hmonth, hday, decide_true, Bool.true_and]

namespace DateTime

/-- A date with a time of day that is made from something else. -/
inductive Made : DateTime → Prop
  | numbers {year month day hour minute second millisecond : Nat} {d : DateTime}
    (h : of year month day hour minute second millisecond = .ok d) : Made d
  | date {year month day : Nat} {d : DateTime} (h : ofDate year month day = .ok d) : Made d
  | text {s : String} {d : DateTime} (h : parse s = .ok d) : Made d
  | wire {w : WireTime} {d : DateTime} (h : ofWire w = .ok d) : Made d
  | timestamp {seconds : Int} {d : DateTime} (h : UnixTime.dateTime seconds = .ok d) : Made d
  | clock (r : ClockReading) {d : DateTime} (h : ofCivil r.year r.month r.day r.time = .ok d) :
    Made d
  /-- Where a clock cannot be shown. -/
  | noClock : Made {}
  | dayOfYear {year n : Nat} {d : DateTime} (h : ofDayOfYear year n = .ok d) : Made d

variable {d e : DateTime}

theorem valid_of_ok {year month day hour minute second millisecond : Nat}
    (h : of year month day hour minute second millisecond = .ok d) : d.Valid := by
  rw [of] at h
  split at h
  · next hvalid =>
    cases h
    obtain ⟨hdate, htime⟩ := Bool.and_eq_true_iff.1 hvalid
    exact ⟨hdate, htime⟩
  · next => cases h

theorem valid_of_civil {year : Int} {month day : Nat} {time : TimeOfDay} (htime : time.Valid)
    (h : ofCivil year month day time = .ok d) : d.Valid := by
  rw [ofCivil] at h
  split at h
  · next hdate =>
    cases h
    exact ⟨hdate, htime⟩
  · next => cases h

theorem valid_of_dayOfYear {year n : Nat} (h : ofDayOfYear year n = .ok d) :
    d.Valid ∧ d.year = year := by
  rw [ofDayOfYear] at h
  split at h
  · next => cases h
  · next =>
    refine ⟨valid_of_ok h, ?_⟩
    rw [ofDate, of] at h
    split at h
    · next =>
      cases h
      rfl
    · next => cases h

theorem Made.valid (h : Made d) : d.Valid := by
  cases h with
  | numbers h => exact valid_of_ok h
  | date h => exact valid_of_ok h
  | @text s d h =>
    rw [parse] at h
    cases hread : Reader.dateTime s with
    | error e => rw [hread] at h; cases h
    | ok f =>
      rw [hread] at h
      exact valid_of_ok h
  | wire h =>
    rw [ofWire] at h
    split at h
    · next =>
      cases htime : TimeOfDay.ofWire _ with
      | error e => rw [htime] at h; cases h
      | ok t =>
        rw [htime] at h
        cases h
        exact ⟨rfl, TimeOfDay.valid_of_ok htime⟩
    · next => exact valid_of_ok h
  | timestamp h =>
    rw [UnixTime.dateTime, UnixTime.dateTimeBy] at h
    split at h
    · next => cases h
    · next hreading => exact valid_of_civil (TimeOfDay.valid_of_reading hreading) h
  | clock r h => exact valid_of_civil r.valid_time h
  | noClock => exact ⟨rfl, rfl⟩
  | dayOfYear h => exact (valid_of_dayOfYear h).1

theorem Valid.withMonth {year : Int} {month : Nat} (hd : d.Valid) (hmonth : 1 ≤ month ∧ month ≤ 12)
    (h : d.withMonth year month = .ok e) : e.Valid := by
  rw [DateTime.withMonth] at h
  split at h
  · next hyear =>
    cases h
    have hrange : 1 ≤ year.toNat ∧ year.toNat ≤ maxYear := by
      have hlast : ((maxYear : Nat) : Int) = 65535 := rfl
      have hmost : maxYear = 65535 := rfl
      omega
    exact ⟨validDate_resetDay hrange hmonth, hd.time⟩
  · next => cases h

theorem Valid.addYears {n : Int} (hd : d.Valid) (h : d.addYears n = .ok e) : e.Valid := by
  obtain ⟨-, -, hfirst, hlast, -⟩ := validDate_spec hd.date
  rw [DateTime.addYears] at h
  split at h
  · next =>
    cases h
    exact hd
  · next => exact hd.withMonth ⟨hfirst, hlast⟩ h

theorem Valid.addMonths {n : Int} (hd : d.Valid) (h : d.addMonths n = .ok e) : e.Valid := by
  rw [DateTime.addMonths] at h
  split at h
  · next =>
    cases h
    exact hd
  · next => exact hd.withMonth (by omega) h

theorem Valid.addDays {n : Int} (hd : d.Valid) (h : d.addDays n = .ok e) : e.Valid := by
  obtain ⟨hdate, -, htime⟩ := (addDays_eq_ok_iff hd.date).1 h
  exact ⟨hdate, htime ▸ hd.time⟩

theorem Valid.addTo {a : Amount} (hd : d.Valid) (h : a.addTo d = .ok e) : e.Valid := by
  by_cases hdelta : a.delta = 0
  · rw [Amount.addTo_of_delta_eq_zero hdelta] at h
    cases h
    exact hd
  · exact ((Amount.addTo_eq_ok_iff hd hdelta).1 h).1

/-- A changed date exists. -/
theorem Valid.set {f : DateField} {n : Nat} (hd : d.Valid) (h : f.set d n = .ok e) : e.Valid := by
  obtain ⟨hfirst, hlast, hfirstMonth, hlastMonth, -⟩ := validDate_spec hd.date
  cases f with
  | year =>
    rw [DateField.set, setYear] at h
    split at h
    · next hyear =>
      cases h
      exact ⟨validDate_resetDay hyear ⟨hfirstMonth, hlastMonth⟩, hd.time⟩
    · next => cases h
  | month =>
    rw [DateField.set, setMonth] at h
    split at h
    · next hmonth =>
      cases h
      exact ⟨validDate_resetDay ⟨hfirst, hlast⟩ hmonth, hd.time⟩
    · next => cases h
  | day =>
    rw [DateField.set, setDay] at h
    split at h
    · next hday =>
      cases h
      exact ⟨hday, hd.time⟩
    · next => cases h
  | time f =>
    rw [DateField.set_time] at h
    cases hset : f.set d.time n with
    | error refusal => rw [hset] at h; cases h
    | ok t =>
      rw [hset] at h
      cases h
      exact ⟨hd.date, TimeOfDay.Valid.set hset⟩
  | dayOfYear =>
    rw [DateField.set, setDayOfYear] at h
    cases hdate : ofDayOfYear d.year n with
    | error refusal => rw [hdate] at h; cases h
    | ok date =>
      rw [hdate] at h
      cases h
      obtain ⟨hvalid, hyear⟩ := valid_of_dayOfYear hdate
      refine ⟨?_, hd.time⟩
      rw [← hyear]
      exact hvalid.date

end DateTime

/-! ## Programs -/

/-- A time of day alone, or a date with one. -/
inductive Moment
  | time (t : TimeOfDay)
  | dateTime (d : DateTime)

/-- The moment exists. -/
def Moment.Valid : Moment → Prop
  | time t => t.Valid
  | dateTime d => d.Valid

/-- The moments that a program can come to, in the words that hold their fields.  A moment that was
changed in place is there whether or not the change was refused. -/
inductive Reached : Moment → Prop
  | timeMade {t : TimeOfDay} (h : t.Made) : Reached (.time t.stored)
  | timeOfDate {d : DateTime} (h : Reached (.dateTime d)) : Reached (.time d.time)
  | timeAssigned {t : TimeOfDay} (h : Reached (.time t)) (f : TimeField) (n : Nat) :
    Reached (.time (f.assign n t).2)
  | timeAdded {t : TimeOfDay} (h : Reached (.time t)) (a : TimeOfDay.Amount) :
    Reached (.time (a.addTo t).stored)
  | made {d : DateTime} (h : d.Made) : Reached (.dateTime d.stored)
  | ofTime {t : TimeOfDay} (h : Reached (.time t)) : Reached (.dateTime (.ofTime t))
  | assigned {d : DateTime} (h : Reached (.dateTime d)) (f : DateField) (n : Nat) :
    Reached (.dateTime (f.assign n d).2)
  | addedYears {d e : DateTime} {n : Int} (h : Reached (.dateTime d)) (hadd : d.addYears n = .ok e) :
    Reached (.dateTime e.stored)
  | addedMonths {d e : DateTime} {n : Int} (h : Reached (.dateTime d))
    (hadd : d.addMonths n = .ok e) : Reached (.dateTime e.stored)
  | addedDays {d e : DateTime} {n : Int} (h : Reached (.dateTime d)) (hadd : d.addDays n = .ok e) :
    Reached (.dateTime e.stored)
  | added {d e : DateTime} {a : Amount} (h : Reached (.dateTime d)) (hadd : a.addTo d = .ok e) :
    Reached (.dateTime e.stored)
  | date {d : DateTime} (h : Reached (.dateTime d)) : Reached (.dateTime d.date)

theorem TimeOfDay.Valid.assign {t : TimeOfDay} (h : t.Valid) (f : TimeField) (n : Nat) :
    (f.assign n t).2.Valid := by
  rw [f.assign_eq]
  cases hset : f.set t n with
  | ok u => exact Valid.set hset
  | error e => exact h

theorem DateTime.Valid.assign {d : DateTime} (h : d.Valid) (f : DateField) (n : Nat) :
    (f.assign n d).2.Valid := by
  rw [f.assign_eq]
  cases hset : f.set d n with
  | ok e => exact h.set hset
  | error e => exact h

/-- The words hold what exists. -/
theorem TimeOfDay.Valid.stored {t : TimeOfDay} (h : t.Valid) : t.stored.Valid := by
  rw [h.stored_eq]
  exact h

theorem DateTime.Valid.stored {d : DateTime} (h : d.Valid) : d.stored.Valid := by
  rw [h.stored_eq]
  exact h

/-- A program only comes to moments that exist. -/
theorem Reached.valid {m : Moment} (h : Reached m) : m.Valid := by
  induction h with
  | timeMade h => exact h.valid.stored
  | timeOfDate h ih => exact DateTime.Valid.time ih
  | timeAssigned h f n ih => exact TimeOfDay.Valid.assign ih f n
  | timeAdded h a ih => exact (TimeOfDay.Valid.addTo ih a).stored
  | made h => exact h.valid.stored
  | ofTime h ih => exact ⟨rfl, ih⟩
  | assigned h f n ih => exact DateTime.Valid.assign ih f n
  | addedYears h hadd ih => exact (DateTime.Valid.addYears ih hadd).stored
  | addedMonths h hadd ih => exact (DateTime.Valid.addMonths ih hadd).stored
  | addedDays h hadd ih => exact (DateTime.Valid.addDays ih hadd).stored
  | added h hadd ih => exact (DateTime.Valid.addTo ih hadd).stored
  | date h ih => exact ⟨ih.date, rfl⟩

/-! ## Years and months -/

section Reset

variable {d e : DateTime} {n : Nat}

/-- With the year nothing else changes, but for a day that no longer exists. -/
theorem DateTime.Valid.setYear_eq (hd : d.Valid) (h : d.setYear n = .ok e) :
    e = { d with year := n, day := if d.day ≤ daysInMonth n d.month then d.day else 1 } := by
  obtain ⟨-, -, hmonth, -, hday, -⟩ := validDate_spec hd.date
  rw [setYear] at h
  split at h
  · next hyear =>
    rw [validDate_eq hyear hmonth hday] at h
    simpa [eq_comm] using h
  · next => cases h

/-- With the month nothing else changes, but for a day that no longer exists. -/
theorem DateTime.Valid.setMonth_eq (hd : d.Valid) (h : d.setMonth n = .ok e) :
    e = { d with month := n, day := if d.day ≤ daysInMonth d.year n then d.day else 1 } := by
  obtain ⟨hfirst, hlast, -, -, hday, -⟩ := validDate_spec hd.date
  rw [setMonth] at h
  split at h
  · next hmonth =>
    rw [validDate_eq ⟨hfirst, hlast⟩ hmonth.1 hday] at h
    simpa [eq_comm] using h
  · next => cases h

end Reset

/-- Whatever a program does with dates and times, each number of those that it holds is in its
range.  A refused change in place leaves what was there, and a change of the year or the month
leaves everything else, but for a day that no longer exists and becomes the first. -/
theorem reached_moments :
    (∀ t, Reached (.time t) →
      (t.hour < 24 ∧ t.minute < 60 ∧ t.second < 62 ∧ t.millisecond < 1000) ∧
        ∀ (f : TimeField) (n : Nat) (e : Error) (t' : TimeOfDay),
          f.assign n t = (.error e, t') → t' = t) ∧
      ∀ d, Reached (.dateTime d) →
        ((1 ≤ d.year ∧ d.year ≤ 65535) ∧ (1 ≤ d.month ∧ d.month ≤ 12) ∧
          (1 ≤ d.day ∧ d.day ≤ daysInMonth d.year d.month) ∧
          d.time.hour < 24 ∧ d.time.minute < 60 ∧ d.time.second < 62 ∧
          d.time.millisecond < 1000) ∧
        (∀ (f : DateField) (n : Nat) (e : Error) (d' : DateTime),
          f.assign n d = (.error e, d') → d' = d) ∧
        (∀ (n m : Nat) (d' : DateTime), DateField.year.assign n d = (.ok m, d') →
          d' = { d with
            year := n
            day := if d.day ≤ daysInMonth n d.month then d.day else 1 }) ∧
        ∀ (n m : Nat) (d' : DateTime), DateField.month.assign n d = (.ok m, d') →
          d' = { d with
            month := n
            day := if d.day ≤ daysInMonth d.year n then d.day else 1 } := by
  constructor
  · intro t ht
    have hvalid : t.Valid := ht.valid
    exact ⟨TimeOfDay.valid_iff.1 hvalid, fun f n e t' ↦ TimeField.eq_of_assign_error⟩
  · intro d hd
    have hvalid : d.Valid := hd.valid
    obtain ⟨hfirst, hlast, hfirstMonth, hlastMonth, hpos, hday, -⟩ := validDate_spec hvalid.date
    refine ⟨⟨⟨hfirst, hlast⟩, ⟨hfirstMonth, hlastMonth⟩, ⟨hpos, hday⟩,
      TimeOfDay.valid_iff.1 hvalid.time⟩, fun f n e d' ↦ DateField.eq_of_assign_error, ?_, ?_⟩
    · intro n m d' hassign
      exact hvalid.setYear_eq (DateField.set_of_assign_ok hassign)
    · intro n m d' hassign
      exact hvalid.setMonth_eq (DateField.set_of_assign_ok hassign)

/-- A clock in a leap second of the last day of February. -/
def leapReading : ClockReading :=
  { year := 2000
    month := 2
    day := 29
    hour := 23
    minute := 59
    second := 59
    nanosecond := 1250000000 }

/-- The reading is a date with the second 60.  A day that February does not have is refused and
changes nothing, and in the next year the day is the first. -/
theorem reached_moments_leapReading :
    let d : DateTime :=
      { year := 2000
        month := 2
        day := 29
        time := { hour := 23, minute := 59, second := 60, millisecond := 250 } }
    Reached (.dateTime d) ∧ d.time.second < 62 ∧
      (DateField.day.assign 30 d).1 = .error (.dateTime 2000 2 30 23 59 60 250) ∧
      (DateField.day.assign 30 d).2 = d ∧
      (DateField.year.assign 2001 d).2 = { d with year := 2001, day := 1 } := by
  intro d
  have hd : Reached (.dateTime d) := .made (.clock leapReading rfl)
  obtain ⟨hranges, hrefused, hyear, -⟩ := reached_moments.2 d hd
  have hday : DateField.day.assign 30 d = (.error (.dateTime 2000 2 30 23 59 60 250), d) := by
    decide +kernel
  refine ⟨hd, hranges.2.2.2.2.2.1, congrArg Prod.fst hday, ?_, ?_⟩
  · exact hrefused .day 30 (.dateTime 2000 2 30 23 59 60 250) _ (by decide +kernel)
  · exact hyear 2001 2001 _ (by decide +kernel)

end MariaClient.Temporal
