import MariaClient.Proofs.Temporal.Clock
import MariaClient.Proofs.Temporal.Distance

/-!
# The span between two times of day

Without leap seconds the later of two times has more milliseconds of the day, so that the distance
is never taken around the clock and the span is that of the difference (`timeBetween_eq`).  Its
length is the difference with its sign (`length_timeBetween`).  So adding the span to the one time
leads to the other, and taking it away leads back (`timeBetween_clock`).
-/

namespace MariaClient.Temporal

open Calendar

theorem Span.length_ofDayMillis {days millis : Nat} {negative : Bool} (h : millis < msPerDay) :
    (ofDayMillis days millis negative).length =
      if negative then -((days * msPerDay + millis : Nat) : Int)
      else (days * msPerDay + millis : Nat) := by
  rw [← signedMilliseconds_eq, signedMilliseconds, totalMilliseconds_ofDayMillis h]
  rfl

namespace TimeOfDay

variable {t u : TimeOfDay}

/-- The distance from an earlier time is not taken around the clock. -/
theorem distance_of_le (h : u.msOfDay ≤ t.msOfDay) :
    t.distance u = .ofDayMillis 0 (t.msOfDay - u.msOfDay) false := by
  rw [distance, if_neg (Nat.not_lt.2 h)]

/-- The span is negative if and only if the time that it starts from is the later one, also at a
leap second. -/
theorem negative_timeBetween_iff (t u : TimeOfDay) :
    (t.timeBetween u).negative = true ↔ t.order u = .lt := by
  rw [timeBetween]
  cases t.order u with
  | lt => exact iff_of_true rfl rfl
  | eq => exact iff_of_false Bool.false_ne_true nofun
  | gt => exact iff_of_false Bool.false_ne_true nofun

section Clock

variable (ht : t.Valid) (hu : u.Valid) (htsecond : t.second < 60) (husecond : u.second < 60)

include ht hu htsecond husecond

theorem natAbs_msOfDay_sub_lt : ((t.msOfDay : Int) - u.msOfDay).natAbs < msPerDay := by
  have htday := ht.msOfDay_lt_of_second htsecond
  have huday := hu.msOfDay_lt_of_second husecond
  omega

/-- The span is that of the difference of the milliseconds, in whichever direction it leads. -/
theorem timeBetween_eq :
    t.timeBetween u = .ofDayMillis 0 ((t.msOfDay : Int) - u.msOfDay).natAbs
      (decide (t.msOfDay < u.msOfDay)) := by
  rw [timeBetween, ht.order_eq hu htsecond husecond]
  rcases Nat.lt_trichotomy t.msOfDay u.msOfDay with hlt | heq | hgt
  · have hback : ((t.msOfDay : Int) - u.msOfDay).natAbs = u.msOfDay - t.msOfDay := by omega
    rw [hback, Nat.compare_eq_lt.2 hlt, decide_eq_true hlt]
    simp only [distance_of_le hlt.le]
    rfl
  · rw [heq, Nat.compare_eq_eq.2 rfl, decide_eq_false (Nat.lt_irrefl _), sub_self]
    rfl
  · have hforth : ((t.msOfDay : Int) - u.msOfDay).natAbs = t.msOfDay - u.msOfDay := by omega
    rw [hforth, Nat.compare_eq_gt.2 hgt, decide_eq_false (Nat.lt_asymm hgt)]
    exact distance_of_le hgt.le

theorem totalMilliseconds_timeBetween :
    (t.timeBetween u).totalMilliseconds = ((t.msOfDay : Int) - u.msOfDay).natAbs := by
  rw [timeBetween_eq ht hu htsecond husecond,
    Span.totalMilliseconds_ofDayMillis (natAbs_msOfDay_sub_lt ht hu htsecond husecond),
    Nat.zero_mul, Nat.zero_add]

/-- The span is as long as the difference of the milliseconds, and has its sign. -/
theorem length_timeBetween : (t.timeBetween u).length = (t.msOfDay : Int) - u.msOfDay := by
  rw [timeBetween_eq ht hu htsecond husecond,
    Span.length_ofDayMillis (natAbs_msOfDay_sub_lt ht hu htsecond husecond), Nat.zero_mul,
    Nat.zero_add]
  simp only [decide_eq_true_eq]
  omega

theorem add_timeBetween : u.add (t.timeBetween u) = t := by
  have hmoved := add_ofMsOfDay u.msOfDay (t.timeBetween u)
  rwa [length_timeBetween ht hu htsecond husecond, add_sub_cancel, hu.ofMsOfDay_msOfDay husecond,
    ht.ofMsOfDay_msOfDay htsecond] at hmoved

theorem subtract_timeBetween : t.subtract (t.timeBetween u) = u := by
  have hback := subtract_add hu husecond (t.timeBetween u)
  rwa [add_timeBetween ht hu htsecond husecond] at hback

end Clock

/-- The span between two times without leap seconds measures the distance of their milliseconds and
is negative if and only if it leads back from the later time.  It leads from the second time to the
first when it is added, and back when it is taken away. -/
theorem timeBetween_clock (ht : t.Valid) (hu : u.Valid) (htsecond : t.second < 60)
    (husecond : u.second < 60) :
    (t.timeBetween u).totalMilliseconds = ((t.msOfDay : Int) - u.msOfDay).natAbs ∧
      ((t.timeBetween u).negative = true ↔ t.order u = .lt) ∧
      t.order u = compare t.msOfDay u.msOfDay ∧
      u.add (t.timeBetween u) = t ∧ t.subtract (t.timeBetween u) = u :=
  ⟨totalMilliseconds_timeBetween ht hu htsecond husecond, negative_timeBetween_iff t u,
    ht.order_eq hu htsecond husecond, add_timeBetween ht hu htsecond husecond,
    subtract_timeBetween ht hu htsecond husecond⟩

/-- The longest way back, from the last millisecond of the day to its first. -/
theorem timeBetween_clock_wholeDay :
    let last : TimeOfDay := { hour := 23, minute := 59, second := 59, millisecond := 999 }
    midnight.Valid ∧ last.Valid ∧
      midnight.timeBetween last =
        { negative := true, hours := 23, minutes := 59, seconds := 59, milliseconds := 999 } ∧
      (midnight.timeBetween last).totalMilliseconds = 86399999 ∧
      last.add (midnight.timeBetween last) = midnight ∧
      midnight.subtract (midnight.timeBetween last) = last := by
  intro last
  have hmidnight : midnight.Valid := rfl
  have hlast : last.Valid := rfl
  obtain ⟨htotal, -, -, hadd, hsubtract⟩ :=
    timeBetween_clock hmidnight hlast (by decide) (by decide)
  exact ⟨hmidnight, hlast, by decide, htotal.trans (by decide), hadd, hsubtract⟩

end TimeOfDay

end MariaClient.Temporal
