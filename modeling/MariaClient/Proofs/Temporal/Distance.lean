import MariaClient.Proofs.Calendar.DayOrder
import MariaClient.Proofs.Temporal.Translation

/-!
# The span between two dates with a time

The branch of `timeBetween` is chosen by the order of the fields, but on either branch the
milliseconds are those between the two instants with their sign (`DateTime.msBetween_eq`).  So the
span tells that distance and its direction exactly, also where leap seconds turn the order of the
fields around (`DateTime.timeBetween_exact`).  Adding the span leads to the other instant.  This is
the other date only if that date has no leap second, and no span leads from a date to another one at
the same instant (`DateTime.readd_timeBetween`).
-/

namespace MariaClient.Temporal

open Calendar Text

/-! ## Spans of milliseconds -/

namespace Span

variable {days millis : Nat} {negative : Bool}

theorem totalMilliseconds_ofDayMillis (h : millis < msPerDay) :
    (ofDayMillis days millis negative).totalMilliseconds = days * msPerDay + millis := by
  simp only [totalMilliseconds, totalSeconds, totalMinutes, totalHours, ofDayMillis, msPerDay,
    msPerHour, msPerMinute, msPerSecond] at h ⊢
  omega

theorem valid_ofDayMillis (h : days < 2 ^ 32) : (ofDayMillis days millis negative).Valid := by
  constructor
  · exact h
  all_goals
    simp only [ofDayMillis, SpanPart.limit, msPerDay, msPerHour, msPerMinute, msPerSecond]
    omega

end Span

/-! ## Order -/

namespace TimeOfDay

variable {t u : TimeOfDay}

/-- Times without a leap second are ordered as their milliseconds are. -/
theorem Valid.order_eq (ht : t.Valid) (hu : u.Valid) (htsecond : t.second < 60)
    (husecond : u.second < 60) : t.order u = compare t.msOfDay u.msOfDay := by
  obtain ⟨-, htminute, -, htmillisecond⟩ := valid_iff.1 ht
  obtain ⟨-, huminute, -, humillisecond⟩ := valid_iff.1 hu
  have hbelow {minute second millisecond : Nat} (hminute : minute < 60) (hsecond : second < 60)
      (hmillisecond : millisecond < 1000) :
      second * msPerSecond + millisecond < msPerMinute ∧
        minute * msPerMinute + (second * msPerSecond + millisecond) < msPerHour := by
    simp only [msPerHour, msPerMinute, msPerSecond]
    omega
  obtain ⟨htminutes, hthours⟩ := hbelow htminute htsecond htmillisecond
  obtain ⟨huminutes, huhours⟩ := hbelow huminute husecond humillisecond
  simp only [order, msOfDay, Nat.add_assoc]
  rw [compare_units hthours huhours, compare_units htminutes huminutes,
    @compare_units msPerSecond _ _ _ _ htmillisecond humillisecond]

end TimeOfDay

namespace DateTime

variable {d e : DateTime}

/-- Dates without a leap second are ordered as their instants are. -/
theorem Valid.order_eq (hd : d.Valid) (he : e.Valid) (hdsecond : d.time.second < 60)
    (hesecond : e.time.second < 60) : d.order e = compare d.instant e.instant := by
  have hdpos := dayNumber_nonneg hd.date
  have hepos := dayNumber_nonneg he.date
  have hnumbers : compare d.dayNumber.toNat e.dayNumber.toNat = compare d.dayNumber e.dayNumber :=
    compare_congr (by omega) (by omega)
  have hinstants : compare d.instant e.instant =
      compare (d.dayNumber.toNat * msPerDay + d.time.msOfDay)
        (e.dayNumber.toNat * msPerDay + e.time.msOfDay) := by
    simp only [instant, msPerDay, msPerHour, msPerMinute, msPerSecond]
    exact compare_congr (by omega) (by omega)
  rw [hinstants, compare_units (hd.time.msOfDay_lt_of_second hdsecond)
    (he.time.msOfDay_lt_of_second hesecond), hnumbers, dayNumber, dayNumber,
    compare_dayNumber hd.date he.date, order, hd.time.order_eq he.time hdsecond hesecond,
    Ordering.then_assoc, Ordering.then_assoc]

theorem year_le_of_order (h : d.order e = .lt) : d.year ≤ e.year := by
  by_contra hlater
  rw [order, Nat.compare_eq_gt.2 (Nat.lt_of_not_le hlater)] at h
  cases h

theorem year_le_of_order_ne (h : d.order e ≠ .lt) : e.year ≤ d.year := by
  by_contra hearlier
  rw [order, Nat.compare_eq_lt.2 (Nat.lt_of_not_le hearlier)] at h
  exact h rfl

/-! ## Distance -/

theorem daysOfYears_eq {first : Nat} (hfirst : 1 ≤ first) (count : Nat) :
    daysBeforeYear first + daysOfYears first count = daysBeforeYear (first + count) := by
  induction count with
  | zero => rfl
  | succ count ih =>
    have hsum : daysOfYears first (count + 1) =
        daysOfYears first count + daysInYear (first + count) := by
      rw [daysOfYears, List.range_succ, List.map_append, List.sum_append, List.map_singleton,
        List.sum_singleton, ← daysOfYears]
    rw [hsum, ← Nat.add_assoc, ih, ← Nat.add_assoc,
      daysBeforeYear_succ (Nat.le_add_right_of_le hfirst)]

theorem daysSince_eq (hd : d.Valid) (he : e.Valid) (hyear : e.year ≤ d.year) :
    d.daysSince e = d.dayNumber - e.dayNumber := by
  have hyears := daysOfYears_eq (fallsOn he.date).year_pos (d.year - e.year)
  rw [Nat.add_sub_of_le hyear] at hyears
  have hdtotal := (fallsOn hd.date).total_eq
  have hetotal := (fallsOn he.date).total_eq
  rw [daysSince]
  omega

theorem msSince_eq (hd : d.Valid) (he : e.Valid) (hyear : e.year ≤ d.year) :
    d.msSince e = d.instant - e.instant := by
  rw [msSince, daysSince_eq hd he hyear, instant, instant, sub_mul]
  ring

/-- On either branch the distance is that of the instants, with its sign. -/
theorem msBetween_eq (hd : d.Valid) (he : e.Valid) : d.msBetween e = d.instant - e.instant := by
  rw [msBetween]
  split
  · next horder => rw [msSince_eq he hd (year_le_of_order horder), neg_sub]
  · next horder => exact msSince_eq hd he (year_le_of_order_ne horder)

theorem totalMilliseconds_timeBetween (hd : d.Valid) (he : e.Valid) :
    (d.timeBetween e).totalMilliseconds = (d.instant - e.instant).natAbs := by
  have hday : (d.msBetween e).natAbs % msPerDay < msPerDay := Nat.mod_lt _ (by decide)
  rw [← msBetween_eq hd he, timeBetween]
  exact (Span.totalMilliseconds_ofDayMillis hday).trans (Nat.div_add_mod' _ _)

theorem negative_timeBetween_iff (hd : d.Valid) (he : e.Valid) :
    (d.timeBetween e).negative = true ↔ d.instant < e.instant := by
  have hnegative : (d.timeBetween e).negative = decide (d.msBetween e < 0) := rfl
  rw [hnegative, decide_eq_true_eq, msBetween_eq hd he, sub_neg]

theorem length_timeBetween (hd : d.Valid) (he : e.Valid) :
    (d.timeBetween e).length = d.instant - e.instant := by
  rw [← Span.signedMilliseconds_eq, Span.signedMilliseconds, totalMilliseconds_timeBetween hd he]
  split
  · next hnegative =>
    have hlt := (negative_timeBetween_iff hd he).1 hnegative
    omega
  · next hnegative =>
    have hle := mt (negative_timeBetween_iff hd he).2 hnegative
    omega

theorem Valid.instant_nonneg (h : d.Valid) : first.instant ≤ d.instant := by
  have hpos := dayNumber_nonneg h.date
  rw [instant_first, instant]
  simp only [msPerDay, msPerHour, msPerMinute, msPerSecond]
  omega

/-- Two dates are so near that the span between them can be made. -/
theorem natAbs_instant_sub_lt (hd : d.Valid) (he : e.Valid) :
    (d.instant - e.instant).natAbs / msPerDay < 2 ^ 32 := by
  have hdpos := dayNumber_nonneg hd.date
  have hdlast := dayNumber_le_last hd.date
  have hepos := dayNumber_nonneg he.date
  have helast := dayNumber_le_last he.date
  have hdtime := hd.time.msOfDay_lt
  have hetime := he.time.msOfDay_lt
  have hlast : last.dayNumber = 23936165 := rfl
  simp only [instant, msPerDay, msPerHour, msPerMinute, msPerSecond] at hdtime hetime ⊢
  omega

theorem valid_timeBetween (hd : d.Valid) (he : e.Valid) : (d.timeBetween e).Valid := by
  have hdays := natAbs_instant_sub_lt hd he
  rw [← msBetween_eq hd he] at hdays
  exact Span.valid_ofDayMillis hdays

end DateTime

/-! ## On machine words -/

namespace Words

variable {d e : DateTime}

/-- The days from the date of `e` to the date of `d`. -/
def daysSince (d e : DateTime) : Option Int := do
  let years ← (List.range (d.year - e.year)).foldlM
    (fun sum k ↦ signed (sum + daysInYear (e.year + k))) 0
  let sum ← signed (years + (← dayOfYear d))
  signed (sum - (← dayOfYear e))

/-- The milliseconds from `e` to `d`. -/
def msSince (d e : DateTime) : Option Int := do
  let days ← signed ((← daysSince d e) * msPerDay)
  let sum ← signed (days + (← msOfDay d.time))
  signed (sum - (← msOfDay e.time))

/-- The span of whole days and of the milliseconds of a day. -/
def ofDayMillis (days millis : Nat) (negative : Bool) : Option Span := do
  let millis ← unsigned 64 (millis % msPerDay)
  let hours ← unsigned 8 (millis / msPerHour)
  let minutes ← unsigned 8 (millis % msPerHour / msPerMinute)
  let seconds ← unsigned 8 (millis % msPerMinute / msPerSecond)
  let milliseconds ← unsigned 16 (millis % msPerSecond)
  return { negative, days, hours, minutes, seconds, milliseconds }

/-- The milliseconds from `e` to `d` with their sign. -/
def msBetween (d e : DateTime) : Option Int :=
  if d.order e = .lt then do signed (-(← msSince e d)) else msSince d e

/-- The span from `e` to `d`. -/
def timeBetween (d e : DateTime) : Option Span := do
  let total ← msBetween d e
  let magnitude ← unsigned 64 total.natAbs
  let days ← unsigned 32 (magnitude / msPerDay)
  ofDayMillis days (magnitude % msPerDay) (total < 0)

theorem signed_sum (f : Nat → Nat) :
    ∀ {ks : List Nat} {init : Int}, 0 ≤ init → init + (ks.map f).sum < 9223372036854775808 →
      ks.foldlM (fun sum k ↦ signed (sum + f k)) init = some (init + (ks.map f).sum)
  | [], init, _, _ => congrArg some (Int.add_zero init).symm
  | k :: ks, init, hpos, h => by
    rw [List.map_cons, List.sum_cons, Int.natCast_add, ← Int.add_assoc] at h ⊢
    rw [List.foldlM_cons, signed_bind (by omega)]
    exact signed_sum f (by omega) h

theorem daysSince_eq (hd : d.Valid) (he : e.Valid) (hyear : e.year ≤ d.year) :
    daysSince d e = some (d.daysSince e) := by
  have hyears := DateTime.daysOfYears_eq (DateTime.fallsOn he.date).year_pos (d.year - e.year)
  rw [Nat.add_sub_of_le hyear] at hyears
  have hbefore := daysBeforeYear_le (validDate_spec hd.date).2.1
  have hmost : daysBeforeYear maxYear = 23935801 := rfl
  have hday := Nat.le_trans (DateTime.fallsOn hd.date).le (daysInYear_bounds d.year).2
  have hother := Nat.le_trans (DateTime.fallsOn he.date).le (daysInYear_bounds e.year).2
  have hsum := @signed_sum (fun k ↦ daysInYear (e.year + k)) (List.range (d.year - e.year)) 0
    le_rfl (by rw [← DateTime.daysOfYears]; omega)
  rw [Int.zero_add, ← DateTime.daysOfYears] at hsum
  rw [daysSince, hsum, some_bind, dayOfYear_eq hd.date, some_bind, signed_bind (by omega),
    dayOfYear_eq he.date, some_bind, signed_eq (by omega), DateTime.daysSince]

theorem msSince_eq (hd : d.Valid) (he : e.Valid) (hyear : e.year ≤ d.year) :
    msSince d e = some (d.msSince e) := by
  have hdays := DateTime.daysSince_eq hd he hyear
  have hdpos := DateTime.dayNumber_nonneg hd.date
  have hdlast := DateTime.dayNumber_le_last hd.date
  have hepos := DateTime.dayNumber_nonneg he.date
  have helast := DateTime.dayNumber_le_last he.date
  have hlast : DateTime.last.dayNumber = 23936165 := rfl
  have hdtime : d.time.msOfDay < 86402000 := hd.time.msOfDay_lt
  have hetime : e.time.msOfDay < 86402000 := he.time.msOfDay_lt
  have hday : (msPerDay : Int) = 86400000 := rfl
  rw [msSince, DateTime.msSince, hday, daysSince_eq hd he hyear, some_bind,
    signed_bind (by omega), msOfDay_eq hd.time, some_bind, signed_bind (by omega),
    msOfDay_eq he.time, some_bind, signed_eq (by omega)]

theorem ofDayMillis_eq (days millis : Nat) (negative : Bool) :
    ofDayMillis days millis negative = some (.ofDayMillis days millis negative) := by
  have hday : millis % msPerDay < 86400000 := Nat.mod_lt _ (by decide)
  rw [ofDayMillis, Span.ofDayMillis]
  rw [unsigned_bind (k := millis % msPerDay) (by push_cast; rfl) (by omega)]
  generalize millis % msPerDay = ms at hday ⊢
  have hfits : ms / msPerHour < 2 ^ 8 ∧ ms % msPerHour / msPerMinute < 2 ^ 8 ∧
      ms % msPerMinute / msPerSecond < 2 ^ 8 ∧ ms % msPerSecond < 2 ^ 16 := by
    simp only [msPerHour, msPerMinute, msPerSecond]
    omega
  obtain ⟨hhours, hminutes, hseconds, hmilliseconds⟩ := hfits
  rw [unsigned_bind (by push_cast; rfl) hhours, unsigned_bind (by push_cast; rfl) hminutes,
    unsigned_bind (by push_cast; rfl) hseconds, unsigned_bind (by push_cast; rfl) hmilliseconds]
  rfl

theorem msBetween_eq (hd : d.Valid) (he : e.Valid) :
    msBetween d e = some (d.msBetween e) := by
  have hnear := DateTime.natAbs_instant_sub_lt hd he
  simp only [msPerDay, msPerHour, msPerMinute, msPerSecond] at hnear
  rw [msBetween, DateTime.msBetween]
  split
  · next horder =>
    have hyear := DateTime.year_le_of_order horder
    have hsince := DateTime.msSince_eq he hd hyear
    rw [msSince_eq he hd hyear, some_bind, signed_eq (by omega)]
  · next horder => exact msSince_eq hd he (DateTime.year_le_of_order_ne horder)

/-- No operation overflows on the way to the span. -/
theorem timeBetween_eq (hd : d.Valid) (he : e.Valid) :
    timeBetween d e = some (d.timeBetween e) := by
  have hdays := DateTime.natAbs_instant_sub_lt hd he
  rw [← DateTime.msBetween_eq hd he] at hdays
  have hwide : (d.msBetween e).natAbs < 2 ^ 64 := by
    simp only [msPerDay, msPerHour, msPerMinute, msPerSecond] at hdays
    omega
  rw [timeBetween, msBetween_eq hd he, some_bind, unsigned_bind rfl hwide,
    unsigned_bind (by push_cast; rfl) hdays]
  exact ofDayMillis_eq _ _ _

end Words

/-! ## The distance told by the span -/

namespace DateTime

variable {d e : DateTime}

/-- The span between two dates is the distance of their instants and tells the direction.  Without
leap seconds the order of the fields tells it too. -/
theorem timeBetween_exact (hd : d.Valid) (he : e.Valid) :
    (d.timeBetween e).totalMilliseconds = (d.instant - e.instant).natAbs ∧
      ((d.timeBetween e).negative = true ↔ d.instant < e.instant) ∧
      (d.timeBetween e).Valid ∧ Words.timeBetween d e = some (d.timeBetween e) ∧
      (d.time.second < 60 → e.time.second < 60 → d.order e = compare d.instant e.instant) :=
  ⟨totalMilliseconds_timeBetween hd he, negative_timeBetween_iff hd he, valid_timeBetween hd he,
    Words.timeBetween_eq hd he, hd.order_eq he⟩

/-- A leap second that runs into the next day stands before it in the order of the fields, but at a
later instant. -/
theorem timeBetween_exact_leapSecond :
    let leap : DateTime :=
      { year := 2016
        month := 12
        day := 31
        time := { hour := 23, minute := 59, second := 61, millisecond := 500 } }
    let newYear : DateTime := { year := 2017, month := 1, day := 1, time := .midnight }
    leap.Valid ∧ newYear.Valid ∧ leap.order newYear = .lt ∧
      (leap.timeBetween newYear).totalMilliseconds = 1500 ∧
      (leap.timeBetween newYear).negative = false ∧ first.order newYear = .lt := by
  intro leap newYear
  have hleap : leap.Valid := ⟨rfl, rfl⟩
  have hnewYear : newYear.Valid := ⟨rfl, rfl⟩
  have hfirst : first.Valid := ⟨rfl, rfl⟩
  obtain ⟨htotal, hnegative, -, -, -⟩ := timeBetween_exact hleap hnewYear
  obtain ⟨-, -, -, -, horder⟩ := timeBetween_exact hfirst hnewYear
  refine ⟨hleap, hnewYear, rfl, htotal.trans (by decide), ?_, ?_⟩
  · exact Bool.eq_false_iff.2 (mt hnegative.1 (by decide))
  · exact (horder (by decide) (by decide)).trans (by decide)

/-! ## The span added again -/

/-- Adding the span to another date leads to the instant of that date, but from a date at the same
instant nowhere. -/
theorem add_timeBetween_eq_ok_iff (hd : d.Valid) (he : e.Valid) {r : DateTime} :
    d.add (e.timeBetween d) = .ok r ↔
      if d.instant = e.instant then d = r
      else r.Valid ∧ r.time.second < 60 ∧ r.instant = e.instant := by
  rw [add, Span.signedMilliseconds_eq, length_timeBetween he hd]
  split
  · next hsame => rw [addMilliseconds, if_pos (by omega), Except.ok.injEq]
  · next hother => rw [addMilliseconds_eq_ok_iff hd (by omega), add_sub_cancel]

/-- Adding the span fails only where the other date is a leap second past the last instant. -/
theorem exists_add_timeBetween_iff (hd : d.Valid) (he : e.Valid) :
    (∃ r, d.add (e.timeBetween d) = .ok r) ↔
      d.instant = e.instant ∨ e.instant ≤ last.instant := by
  simp only [add_timeBetween_eq_ok_iff hd he]
  split
  · next hsame => exact ⟨fun _ ↦ .inl hsame, fun _ ↦ ⟨d, rfl⟩⟩
  · next hother =>
    constructor
    · rintro ⟨r, hr, hsecond, hinstant⟩
      have hlast := (hr.instant_bounds hsecond).2
      rw [hinstant] at hlast
      exact .inr hlast
    · rintro (hsame | hlast)
      · exact absurd hsame hother
      · exact exists_instant he.instant_nonneg hlast

/-- Adding the span from one date to another gives the other if and only if they are one, or the
other has no leap second and another instant.  The spans in both directions have one length, and
their signs differ where the instants do.  Without leap seconds this is where the dates do. -/
theorem readd_timeBetween (hd : d.Valid) (he : e.Valid) :
    (d.add (e.timeBetween d) = .ok e ↔ d = e ∨ d.instant ≠ e.instant ∧ e.time.second < 60) ∧
      ((∃ r, d.add (e.timeBetween d) = .ok r) ↔
        d.instant = e.instant ∨ e.instant ≤ last.instant) ∧
      (∀ r, d.add (e.timeBetween d) = .ok r → r.instant = e.instant) ∧
      (d.timeBetween e).totalMilliseconds = (e.timeBetween d).totalMilliseconds ∧
      ((d.timeBetween e).negative = (!(e.timeBetween d).negative) ↔ d.instant ≠ e.instant) ∧
      (d.time.second < 60 → e.time.second < 60 → (d.instant ≠ e.instant ↔ d ≠ e)) := by
  refine ⟨?_, exists_add_timeBetween_iff hd he, ?_, ?_, ?_, ?_⟩
  · rw [add_timeBetween_eq_ok_iff hd he]
    split
    · next hsame => simp [hsame]
    · next hother =>
      have hne : d ≠ e := mt (congrArg instant) hother
      simp [hother, hne, he]
  · rintro r hr
    rw [add_timeBetween_eq_ok_iff hd he] at hr
    split at hr
    · next hsame => exact hr ▸ hsame
    · exact hr.2.2
  · rw [totalMilliseconds_timeBetween hd he, totalMilliseconds_timeBetween he hd,
      ← Int.natAbs_neg, neg_sub]
  · rw [Bool.eq_not, Ne, Bool.eq_iff_iff, negative_timeBetween_iff hd he,
      negative_timeBetween_iff he hd]
    omega
  · rintro hdsecond hesecond
    exact not_congr ⟨instant_unique hd he hdsecond hesecond, congrArg instant⟩

/-- A leap second of New Year's Eve that runs into the next day leads back to its start. -/
theorem readd_timeBetween_newYear :
    let leap : DateTime :=
      { year := 2016
        month := 12
        day := 31
        time := { hour := 23, minute := 59, second := 61, millisecond := 500 } }
    let newYear : DateTime := { year := 2017, month := 1, day := 1, time := .midnight }
    leap.Valid ∧ newYear.Valid ∧ leap.add (newYear.timeBetween leap) = .ok newYear ∧
      (leap.timeBetween newYear).negative = (!(newYear.timeBetween leap).negative) := by
  intro leap newYear
  have hleap : leap.Valid := ⟨rfl, rfl⟩
  have hnewYear : newYear.Valid := ⟨rfl, rfl⟩
  obtain ⟨hadd, -, -, -, hsigns, -⟩ := readd_timeBetween hleap hnewYear
  exact ⟨hleap, hnewYear, hadd.2 (.inr (by decide)), hsigns.2 (by decide)⟩

/-- A second before a leap second, adding the span to it leads to the next day, which is at no
distance from the leap second in either direction.  At the end of the last year there is no next
day. -/
theorem readd_timeBetween_leapSecond :
    let eve : DateTime :=
      { year := 2016, month := 12, day := 31, time := { hour := 23, minute := 59, second := 59 } }
    let leap : DateTime := { eve with time := { eve.time with second := 60 } }
    let newYear : DateTime := { year := 2017, month := 1, day := 1, time := .midnight }
    let lastLeap : DateTime := { last with time := { last.time with second := 60 } }
    (eve.Valid ∧ leap.Valid ∧ newYear.Valid ∧ last.Valid ∧ lastLeap.Valid) ∧
      eve.add (leap.timeBetween eve) = .ok newYear ∧ newYear ≠ leap ∧
      (leap.timeBetween newYear).negative = (newYear.timeBetween leap).negative ∧
      ¬ ∃ r, last.add (lastLeap.timeBetween last) = .ok r := by
  intro eve leap newYear lastLeap
  have heve : eve.Valid := ⟨rfl, rfl⟩
  have hleap : leap.Valid := ⟨rfl, rfl⟩
  have hnewYear : newYear.Valid := ⟨rfl, rfl⟩
  have hlast : last.Valid := ⟨rfl, rfl⟩
  have hlastLeap : lastLeap.Valid := ⟨rfl, rfl⟩
  refine ⟨⟨heve, hleap, hnewYear, hlast, hlastLeap⟩, ?_, by decide, ?_, ?_⟩
  · rw [add_timeBetween_eq_ok_iff heve hleap, if_neg (by decide)]
    exact ⟨hnewYear, by decide, by decide⟩
  · rw [Bool.eq_iff_iff, negative_timeBetween_iff hleap hnewYear,
      negative_timeBetween_iff hnewYear hleap]
    decide
  · rw [exists_add_timeBetween_iff hlast hlastLeap]
    decide

end DateTime

end MariaClient.Temporal
