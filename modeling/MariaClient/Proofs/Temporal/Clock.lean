import MariaClient.Proofs.Temporal.Reached

/-!
# Adding around the clock

A time of day has no date, so what is added to it moves it around the clock.  A clock shows what is
left of a number of milliseconds when whole days are taken away (`ofMsOfDay_congr`), and a date with
a time shows what is left of its instant (`DateTime.Valid.time_eq`).  So adding an amount to a time
of day agrees with adding it to a date at that time, wherever the latter can be done
(`TimeOfDay.addTo_agrees`).
-/

namespace MariaClient.Temporal

open Calendar Text

namespace TimeOfDay

namespace Amount

/-- The amount as one that can be added to a date with a time. -/
def dated : Amount → Temporal.Amount
  | hours n => .hours n
  | minutes n => .minutes n
  | seconds n => .seconds n
  | milliseconds n => .milliseconds n
  | span s => .span s
  | spanBack s => .spanBack s

/-- The span of the amount can be made. -/
def Valid : Amount → Prop
  | span s | spanBack s => s.Valid
  | _ => True

end Amount

/-! ## Clocks -/

variable {t : TimeOfDay} {ms : Int}

/-- Whole days do not move a clock. -/
theorem ofMsOfDay_add_days (ms days : Int) : ofMsOfDay (ms + days * msPerDay) = ofMsOfDay ms :=
  ofMsOfDay_congr (Int.add_mul_emod_self_right ms days msPerDay)

theorem shift_ofMsOfDay (ms delta : Int) : (ofMsOfDay ms).shift delta = ofMsOfDay (ms + delta) := by
  rw [shift]
  split
  · next h => rw [h, Int.add_zero]
  · apply ofMsOfDay_congr
    rw [msOfDay_ofMsOfDay, Int.emod_add_emod]

/-- An amount that is reduced to less than a day moves a clock to where all of it would. -/
theorem shift_reduced {k unit : Nat} (h : k * unit = msPerDay) (ms n : Int) :
    (ofMsOfDay ms).shift (n.tmod k * unit) = ofMsOfDay (ms + n * unit) := by
  have hwhole : ms + n * unit = ms + n.tmod k * unit + n.tdiv k * msPerDay := by
    have hsplit : n * unit = (n.tmod k + k * n.tdiv k) * unit := by
      rw [Int.tmod_add_mul_tdiv]
    rw [hsplit, ← h]
    push_cast
    ring
  rw [shift_ofMsOfDay, hwhole, ofMsOfDay_add_days]

section Units

variable (ms n : Int)

theorem addHours_ofMsOfDay : (ofMsOfDay ms).addHours n = ofMsOfDay (ms + n * msPerHour) :=
  shift_reduced (k := 24) rfl ms n

theorem addMinutes_ofMsOfDay : (ofMsOfDay ms).addMinutes n = ofMsOfDay (ms + n * msPerMinute) :=
  shift_reduced (k := 24 * 60) rfl ms n

theorem addSeconds_ofMsOfDay : (ofMsOfDay ms).addSeconds n = ofMsOfDay (ms + n * msPerSecond) :=
  shift_reduced (k := 24 * 60 * 60) rfl ms n

theorem addMilliseconds_ofMsOfDay : (ofMsOfDay ms).addMilliseconds n = ofMsOfDay (ms + n) := by
  have h := shift_reduced (k := msPerDay) (Nat.mul_one _) ms n
  rwa [Nat.cast_one, Int.mul_one, Int.mul_one] at h

end Units

/-- The parts of a span, added one after the other, move a clock by the length of the span. -/
theorem add_ofMsOfDay (ms : Int) (s : Span) : (ofMsOfDay ms).add s = ofMsOfDay (ms + s.length) := by
  rw [add, addHours_ofMsOfDay, addMinutes_ofMsOfDay, addSeconds_ofMsOfDay,
    addMilliseconds_ofMsOfDay, Span.length, Span.magnitude]
  cases s.negative with
  | false =>
    rw [if_neg Bool.false_ne_true, if_neg Bool.false_ne_true, ← ofMsOfDay_add_days _ s.days]
    ring_nf
  | true =>
    rw [if_pos rfl, if_pos rfl, ← ofMsOfDay_add_days _ (-s.days)]
    ring_nf

/-- Adding moves a clock by the milliseconds of the amount. -/
theorem addTo_ofMsOfDay (ms : Int) (a : Amount) :
    a.addTo (ofMsOfDay ms) = ofMsOfDay (ms + a.dated.delta) := by
  cases a with
  | hours n => exact addHours_ofMsOfDay ms n
  | minutes n => exact addMinutes_ofMsOfDay ms n
  | seconds n => exact addSeconds_ofMsOfDay ms n
  | milliseconds n => exact addMilliseconds_ofMsOfDay ms n
  | span s => exact add_ofMsOfDay ms s
  | spanBack s =>
    have hback := add_ofMsOfDay ms s.flip
    rw [s.length_flip] at hback
    exact hback

/-- A span that is added and taken away moves a clock by whole days. -/
theorem subtract_add (h : t.Valid) (hsecond : t.second < 60) (s : Span) :
    (t.add s).subtract s = t := by
  have hback := addTo_ofMsOfDay (t.msOfDay + s.length) (.spanBack s)
  have hdelta : (Amount.spanBack s).dated.delta = -s.length := rfl
  rw [hdelta, Int.add_neg_cancel_right, h.ofMsOfDay_msOfDay hsecond, ← add_ofMsOfDay,
    h.ofMsOfDay_msOfDay hsecond] at hback
  exact hback

end TimeOfDay

namespace DateTime

variable {d e : DateTime}

/-- The time of a date is what is left of its instant without the whole days. -/
theorem Valid.time_eq (h : d.Valid) (hsecond : d.time.second < 60) :
    d.time = .ofMsOfDay d.instant := by
  rw [instant, Int.add_comm, TimeOfDay.ofMsOfDay_add_days, h.time.ofMsOfDay_msOfDay hsecond]

/-- Adding an amount to a date with a time moves its clock as adding it to the time does. -/
theorem time_addTo (hd : d.Valid) (hsecond : d.time.second < 60) {a : TimeOfDay.Amount}
    (hadd : a.dated.addTo d = .ok e) : e.time = a.addTo d.time := by
  obtain ⟨he, hesecond, hinstant⟩ := (Amount.addTo_eq_ok_iff_of_second hd hsecond).1 hadd
  rw [he.time_eq hesecond, hinstant, hd.time_eq hsecond, TimeOfDay.addTo_ofMsOfDay]

end DateTime

/-! ## On machine words -/

namespace Words

/-- Moves a time by some milliseconds around the day. -/
def shift (t : TimeOfDay) (ms : Int) : Option TimeOfDay := do
  if ms = 0 then return t
  ofMsOfDay (← signed ((← msOfDay t) + ms))

/-- Moves a time by so many units of a number of milliseconds, `count` of which are a day. -/
def turnUnits (t : TimeOfDay) (n : Int) (count unit : Nat) : Option TimeOfDay := do
  let rest ← signed (n.tmod count)
  shift t (← signed (rest * unit))

/-- Moves a time by some milliseconds, of which whole days are taken away before. -/
def turnMilliseconds (t : TimeOfDay) (n : Int) : Option TimeOfDay := do
  shift t (← signed (n.tmod msPerDay))

/-- Adds the parts of a span one after the other. -/
def turnSpan (t : TimeOfDay) (s : Span) : Option TimeOfDay := do
  let sign : Int := if s.negative then -1 else 1
  let t ← turnUnits t (← signed (sign * s.hours)) 24 msPerHour
  let t ← turnUnits t (← signed (sign * s.minutes)) (24 * 60) msPerMinute
  let t ← turnUnits t (← signed (sign * s.seconds)) (24 * 60 * 60) msPerSecond
  turnMilliseconds t (← signed (sign * s.milliseconds))

variable {t : TimeOfDay}

theorem shift_eq (ht : t.Valid) {ms : Int} (hms : ms.natAbs ≤ msPerDay) :
    shift t ms = some (t.shift ms) := by
  have hday : t.msOfDay < msPerDay + 2000 := ht.msOfDay_lt
  rw [shift, TimeOfDay.shift]
  split
  · rfl
  · simp only [msPerDay, msPerHour, msPerMinute, msPerSecond] at hms hday
    rw [msOfDay_eq ht, some_bind, signed_bind (by omega), ofMsOfDay_eq]

/-- The rest of an amount, of which whole days are taken away, is less than a day. -/
theorem natAbs_rest_le {count unit : Nat} (h : count * unit = msPerDay) (n : Int) :
    (n.tmod count).natAbs < 9223372036854775808 ∧ (n.tmod count * unit).natAbs ≤ msPerDay := by
  have hpositive : 0 < count * unit := h ▸ Nat.zero_lt_succ _
  have hcount : (n.tmod count).natAbs < count := by
    rw [Int.natAbs_tmod, Int.natAbs_natCast]
    exact Nat.mod_lt _ (Nat.pos_of_mul_pos_right hpositive)
  constructor
  · have hle : count ≤ count * unit := Nat.le_mul_of_pos_right _ (Nat.pos_of_mul_pos_left hpositive)
    rw [h, msPerDay, msPerHour, msPerMinute, msPerSecond] at hle
    omega
  · rw [Int.natAbs_mul, Int.natAbs_natCast, ← h]
    exact Nat.mul_le_mul_right unit (Nat.le_of_lt hcount)

theorem turnUnits_eq (ht : t.Valid) {k unit : Nat} (h : k * unit = msPerDay) (n : Int) :
    turnUnits t n k unit = some (t.shift (n.tmod k * unit)) := by
  obtain ⟨hcount, hunit⟩ := natAbs_rest_le h n
  have hword : (n.tmod k * unit).natAbs < 9223372036854775808 :=
    Nat.lt_of_le_of_lt hunit (by decide)
  rw [turnUnits, signed_bind hcount, signed_bind hword, shift_eq ht hunit]

theorem turnHours_eq (ht : t.Valid) (n : Int) :
    turnUnits t n 24 msPerHour = some (t.addHours n) :=
  turnUnits_eq ht rfl n

theorem turnMinutes_eq (ht : t.Valid) (n : Int) :
    turnUnits t n (24 * 60) msPerMinute = some (t.addMinutes n) :=
  turnUnits_eq (k := 24 * 60) ht rfl n

theorem turnSeconds_eq (ht : t.Valid) (n : Int) :
    turnUnits t n (24 * 60 * 60) msPerSecond = some (t.addSeconds n) :=
  turnUnits_eq (k := 24 * 60 * 60) ht rfl n

theorem turnMilliseconds_eq (ht : t.Valid) (n : Int) :
    turnMilliseconds t n = some (t.addMilliseconds n) := by
  obtain ⟨hword, hday⟩ := natAbs_rest_le (Nat.mul_one msPerDay) n
  rw [Nat.cast_one, Int.mul_one] at hday
  rw [turnMilliseconds, signed_bind hword, shift_eq ht hday]
  rfl

theorem turnSpan_eq (ht : t.Valid) {s : Span} (hs : s.Valid) : turnSpan t s = some (t.add s) := by
  obtain ⟨-, hhours, hminutes, hseconds, hmilliseconds⟩ := hs
  simp only [SpanPart.limit] at hhours hminutes hseconds hmilliseconds
  rw [turnSpan, TimeOfDay.add]
  have hsign : (if s.negative then -1 else 1 : Int).natAbs = 1 := by
    split
    · rfl
    · rfl
  generalize (if s.negative then -1 else 1 : Int) = sign at hsign ⊢
  have hpart (part : Nat) : (sign * part).natAbs = part := by
    rw [Int.natAbs_mul, hsign, Int.natAbs_natCast, Nat.one_mul]
  have hhour : (t.addHours (sign * s.hours)).Valid := ht.shift _
  have hminute : ((t.addHours (sign * s.hours)).addMinutes (sign * s.minutes)).Valid :=
    hhour.shift _
  rw [signed_bind (by rw [hpart]; omega), turnHours_eq ht, some_bind,
    signed_bind (by rw [hpart]; omega), turnMinutes_eq hhour, some_bind,
    signed_bind (by rw [hpart]; omega), turnSeconds_eq hminute, some_bind,
    signed_bind (by rw [hpart]; omega)]
  exact turnMilliseconds_eq (hminute.shift _) _

end Words

namespace TimeOfDay

/-- Adds the amount around the day on machine words. -/
def Amount.addToWords (t : TimeOfDay) : Amount → Option TimeOfDay
  | hours n => Words.turnUnits t n 24 msPerHour
  | minutes n => Words.turnUnits t n (24 * 60) msPerMinute
  | seconds n => Words.turnUnits t n (24 * 60 * 60) msPerSecond
  | milliseconds n => Words.turnMilliseconds t n
  | span s => Words.turnSpan t s
  | spanBack s => Words.turnSpan t s.flip

/-- No operation on machine words overflows. -/
theorem addToWords_eq {t : TimeOfDay} (ht : t.Valid) {a : Amount} (h : a.Valid) :
    a.addToWords t = some (a.addTo t) := by
  cases a with
  | hours n => exact Words.turnHours_eq ht n
  | minutes n => exact Words.turnMinutes_eq ht n
  | seconds n => exact Words.turnSeconds_eq ht n
  | milliseconds n => exact Words.turnMilliseconds_eq ht n
  | span s => exact Words.turnSpan_eq ht h
  | spanBack s =>
    exact Words.turnSpan_eq ht ⟨h.days, h.hours, h.minutes, h.seconds, h.milliseconds⟩

/-- The clock of a date with a time agrees with that of the time alone, whatever is added and in
whatever unit, wherever it can be added to the date.  A span that is added to a time and taken away
gives the time back.  No amount overflows the words of a machine, not even at a leap second. -/
theorem addTo_agrees :
    (∀ {d e : DateTime}, d.Valid → d.time.second < 60 → ∀ a : Amount, a.dated.addTo d = .ok e →
      e.time = a.addTo d.time) ∧
    (∀ {t : TimeOfDay}, t.Valid → t.second < 60 → ∀ s : Span, (t.add s).subtract s = t) ∧
    ∀ {t : TimeOfDay}, t.Valid → ∀ a : Amount, a.Valid → a.addToWords t = some (a.addTo t) :=
  ⟨fun hd hsecond _ hadd ↦ DateTime.time_addTo hd hsecond hadd,
    fun ht hsecond s ↦ subtract_add ht hsecond s, fun ht _ h ↦ addToWords_eq ht h⟩

/-- A span of almost four days, with a minute of sixty seconds, taken away from the start of a
leap day, and the longest way back by hours. -/
theorem addTo_agrees_leapDay :
    let d : DateTime := { year := 2024, month := 2, day := 29, time := .midnight }
    let s : Span := { days := 3, hours := 23, minutes := 59, seconds := 60, milliseconds := 999 }
    let e : DateTime :=
      { year := 2024
        month := 2
        day := 24
        time := { hour := 23, minute := 59, second := 59, millisecond := 1 } }
    d.subtract s = .ok e ∧ d.time.subtract s = e.time ∧ (e.time.add s).subtract s = e.time ∧
      (Amount.hours (-(2 ^ 63))).addToWords e.time =
        some { hour := 15, minute := 59, second := 59, millisecond := 1 } := by
  intro d s e
  have hd : d.Valid := ⟨by decide, rfl⟩
  have he : e.Valid := ⟨by decide, rfl⟩
  obtain ⟨hagrees, hback, hwords⟩ := addTo_agrees
  have hsub : (Amount.spanBack s).dated.addTo d = .ok e := by decide +kernel
  refine ⟨hsub, (hagrees hd (by decide) (.spanBack s) hsub).symm, hback he.time (by decide) s, ?_⟩
  rw [hwords he.time (.hours (-(2 ^ 63))) trivial]
  decide +kernel

end TimeOfDay

end MariaClient.Temporal
