import MariaClient.Proofs.Temporal.Words

/-!
# Adding to a date with a time

Whatever is added to a date with a time, in whatever unit and direction, has a length in
milliseconds (`Amount.delta`).  Adding it is a translation by that length on the axis of instants:
it fails only where it would leave the years that a date can have, and no operation on machine words
overflows on the way (`DateTime.translation`).
-/

namespace MariaClient.Temporal

open Calendar Text

/-- The milliseconds of a span whatever its direction. -/
def Span.magnitude (s : Span) : Int :=
  s.days * msPerDay + s.hours * msPerHour + s.minutes * msPerMinute + s.seconds * msPerSecond +
    s.milliseconds

/-- The milliseconds of a span, negative for a span in the other direction. -/
def Span.length (s : Span) : Int :=
  if s.negative then -s.magnitude else s.magnitude

theorem Span.signedMilliseconds_eq (s : Span) : s.signedMilliseconds = s.length := by
  have htotal : (s.totalMilliseconds : Int) = s.magnitude := by
    simp only [magnitude, totalMilliseconds, totalSeconds, totalMinutes, totalHours, msPerDay,
      msPerHour, msPerMinute, msPerSecond]
    omega
  rw [signedMilliseconds, length, htotal]

theorem Span.length_flip (s : Span) : s.flip.length = -s.length := by
  have hmagnitude : s.flip.magnitude = s.magnitude := rfl
  have hflip : s.flip.negative = !s.negative := rfl
  rw [length, length, hmagnitude, hflip]
  cases s.negative with
  | false => rw [Bool.not_false, if_pos rfl, if_neg Bool.false_ne_true]
  | true => rw [Bool.not_true, if_neg Bool.false_ne_true, if_pos rfl, neg_neg]

/-- What can be added to a date with a time, but for whole days. -/
inductive Amount
  | hours (n : Int)
  | minutes (n : Int)
  | seconds (n : Int)
  | milliseconds (n : Int)
  /-- A span with its sign. -/
  | span (s : Span)
  /-- A span in the direction against its sign. -/
  | spanBack (s : Span)
  /-- A time of day as a length of time. -/
  | time (t : TimeOfDay)
  /-- A time of day as a length of time backwards. -/
  | timeBack (t : TimeOfDay)

namespace Amount

/-- The span or the time of day of the amount can be made. -/
def Valid : Amount → Prop
  | span s | spanBack s => s.Valid
  | time t | timeBack t => t.Valid
  | _ => True

/-- The milliseconds of the amount. -/
def delta : Amount → Int
  | hours n => n * msPerHour
  | minutes n => n * msPerMinute
  | seconds n => n * msPerSecond
  | milliseconds n => n
  | span s => s.length
  | spanBack s => -s.length
  | time t => t.msOfDay
  | timeBack t => -t.msOfDay

/-- Adds the amount. -/
def addTo (d : DateTime) : Amount → Except Error DateTime
  | hours n => d.addHours n
  | minutes n => d.addMinutes n
  | seconds n => d.addSeconds n
  | milliseconds n => d.addMilliseconds n
  | span s => d.add s
  | spanBack s => d.subtract s
  | time t => d.addTime t
  | timeBack t => d.subtractTime t

/-- Adds the amount on machine words. -/
def addToWords (d : DateTime) : Amount → Option (Except Error DateTime)
  | hours n => Words.addUnits d n msPerHour
  | minutes n => Words.addUnits d n msPerMinute
  | seconds n => Words.addUnits d n msPerSecond
  | milliseconds n => Words.addMilliseconds d n
  | span s => Words.add d s
  | spanBack s => Words.add d s.flip
  | time t => Words.addTime d t
  | timeBack t => Words.subtractTime d t

variable {a : Amount} {d e : DateTime}

/-- Every amount is added as its milliseconds, unless these are more than a word of 64 bits. -/
theorem addTo_eq (d : DateTime) (a : Amount) :
    a.addTo d = d.addMilliseconds a.delta ∨
      fitsSigned 64 a.delta = false ∧ ∃ error, a.addTo d = .error error := by
  have hunits (n : Int) (unit : Nat) : d.addUnits n unit = d.addMilliseconds (n * unit) ∨
      fitsSigned 64 (n * unit) = false ∧ ∃ error, d.addUnits n unit = .error error := by
    rw [DateTime.addUnits]
    cases fitsSigned 64 (n * unit) with
    | true => exact .inl rfl
    | false => exact .inr ⟨rfl, _, rfl⟩
  cases a with
  | hours n => exact hunits n msPerHour
  | minutes n => exact hunits n msPerMinute
  | seconds n => exact hunits n msPerSecond
  | milliseconds n => exact .inl rfl
  | span s => exact .inl (by rw [delta, ← s.signedMilliseconds_eq]; rfl)
  | spanBack s =>
    exact .inl (by rw [delta, ← s.length_flip, ← s.flip.signedMilliseconds_eq]; rfl)
  | time t => exact .inl rfl
  | timeBack t => exact .inl rfl

theorem addTo_of_delta_eq_zero (h : a.delta = 0) : a.addTo d = .ok d := by
  rcases addTo_eq d a with heq | ⟨hwide, -⟩
  · rw [heq, DateTime.addMilliseconds, if_pos h]
  · rw [h] at hwide
    cases hwide

/-- Adding an amount moves the instant by its milliseconds. -/
theorem addTo_eq_ok_iff (hd : d.Valid) (h : a.delta ≠ 0) :
    a.addTo d = .ok e ↔ e.Valid ∧ e.time.second < 60 ∧ e.instant = d.instant + a.delta := by
  rcases addTo_eq d a with heq | ⟨hwide, error, herror⟩
  · rw [heq]
    exact DateTime.addMilliseconds_eq_ok_iff hd h
  · rw [herror]
    constructor
    · rintro ⟨⟩
    · rintro ⟨he, hsecond, hinstant⟩
      have hnear := DateTime.natAbs_le_of_instant hd he hsecond hinstant
      rw [DateTime.last_instant_eq] at hnear
      have hfits : fitsSigned 64 a.delta = true := by
        rw [fitsSigned_iff]
        omega
      rw [hfits] at hwide
      cases hwide

/-- Where there is no leap second to keep, adding nothing is no exception. -/
theorem addTo_eq_ok_iff_of_second (hd : d.Valid) (hsecond : d.time.second < 60) :
    a.addTo d = .ok e ↔ e.Valid ∧ e.time.second < 60 ∧ e.instant = d.instant + a.delta := by
  by_cases h : a.delta = 0
  · rw [addTo_of_delta_eq_zero h, Except.ok.injEq, h, add_zero]
    constructor
    · rintro rfl
      exact ⟨hd, hsecond, rfl⟩
    · rintro ⟨he, hesecond, hinstant⟩
      exact DateTime.instant_unique hd he hsecond hesecond hinstant.symm
  · exact addTo_eq_ok_iff hd h

/-- Adding an amount fails only where it would leave the years that a date can have. -/
theorem exists_addTo_iff (hd : d.Valid) (h : a.delta ≠ 0) :
    (∃ e, a.addTo d = .ok e) ↔
      DateTime.first.instant ≤ d.instant + a.delta ∧
        d.instant + a.delta ≤ DateTime.last.instant := by
  constructor
  · rintro ⟨e, hadd⟩
    obtain ⟨he, hsecond, hinstant⟩ := (addTo_eq_ok_iff hd h).1 hadd
    exact hinstant ▸ he.instant_bounds hsecond
  · rintro ⟨hfirst, hlast⟩
    obtain ⟨e, he⟩ := DateTime.exists_instant hfirst hlast
    exact ⟨e, (addTo_eq_ok_iff hd h).2 he⟩

/-- No operation on machine words overflows. -/
theorem addToWords_eq (hd : d.Valid) (h : a.Valid) : a.addToWords d = some (a.addTo d) := by
  cases a with
  | hours n => exact Words.addUnits_eq hd n msPerHour
  | minutes n => exact Words.addUnits_eq hd n msPerMinute
  | seconds n => exact Words.addUnits_eq hd n msPerSecond
  | milliseconds n => exact Words.addMilliseconds_eq hd n
  | span s => exact Words.add_eq hd h
  | spanBack s => exact Words.add_eq hd ⟨h.days, h.hours, h.minutes, h.seconds, h.milliseconds⟩
  | time t => exact Words.addTime_eq hd h
  | timeBack t => exact Words.subtractTime_eq hd h

end Amount

namespace DateTime

variable {d : DateTime} {n : Int}

/-- Adding days fails only where there is no date in the years that a date can have. -/
theorem exists_addDays_iff (hd : validDate d.year d.month d.day = true) :
    (∃ e, d.addDays n = .ok e) ↔
      first.dayNumber ≤ d.dayNumber + n ∧ d.dayNumber + n ≤ last.dayNumber := by
  rw [dayNumber_first]
  constructor
  · rintro ⟨e, hadd⟩
    obtain ⟨he, hnumber, -⟩ := (addDays_eq_ok_iff hd).1 hadd
    exact hnumber ▸ ⟨dayNumber_nonneg he, dayNumber_le_last he⟩
  · rintro ⟨hfirst, hlast⟩
    obtain ⟨e, he⟩ := exists_dayNumber hfirst hlast d.time
    exact ⟨e, (addDays_eq_ok_iff hd).2 he⟩

/-- Adding an amount to a date with a time is a translation by its milliseconds, and adding days is
one by days.  Each of them fails only past the first and the last year, and no amount overflows the
words of a machine. -/
theorem translation (hd : d.Valid) :
    (∀ a : Amount, a.Valid →
      (a.delta = 0 → a.addTo d = .ok d) ∧
      (a.delta ≠ 0 →
        ((∃ e, a.addTo d = .ok e) ↔
          first.instant ≤ d.instant + a.delta ∧ d.instant + a.delta ≤ last.instant) ∧
        ∀ e, a.addTo d = .ok e ↔
          e.Valid ∧ e.time.second < 60 ∧ e.instant = d.instant + a.delta) ∧
      a.addToWords d = some (a.addTo d)) ∧
    ∀ n : Int,
      ((∃ e, d.addDays n = .ok e) ↔
        first.dayNumber ≤ d.dayNumber + n ∧ d.dayNumber + n ≤ last.dayNumber) ∧
      (∀ e, d.addDays n = .ok e ↔
        validDate e.year e.month e.day = true ∧ e.dayNumber = d.dayNumber + n ∧
          e.time = d.time) ∧
      Words.addDays d n = some (d.addDays n) := by
  constructor
  · rintro a ha
    exact ⟨Amount.addTo_of_delta_eq_zero,
      fun h ↦ ⟨Amount.exists_addTo_iff hd h, fun e ↦ Amount.addTo_eq_ok_iff hd h⟩,
      Amount.addToWords_eq hd ha⟩
  · rintro n
    exact ⟨exists_addDays_iff hd.date, fun e ↦ addDays_eq_ok_iff hd.date,
      Words.addDays_eq hd.date n⟩

/-- The last leap second of the calendar stands past its last instant.  Two seconds earlier is that
instant, and the longest way back is an error without overflow. -/
theorem translation_leapSecond :
    let d : DateTime := { last with time := { last.time with second := 61 } }
    d.Valid ∧ last.instant < d.instant ∧ (Amount.milliseconds (-2000)).addTo d = .ok last ∧
      (Amount.hours (-(2 ^ 63))).addToWords d = some (.error (d.outOfYears unboundedYear)) := by
  intro d
  have hd : d.Valid := ⟨rfl, rfl⟩
  refine ⟨hd, by decide, ?_, ?_⟩
  · have hmoved := ((translation hd).1 (.milliseconds (-2000)) trivial).2.1 (by decide)
    exact (hmoved.2 last).2 ⟨⟨rfl, rfl⟩, by decide, by decide⟩
  · rw [((translation hd).1 (.hours (-(2 ^ 63))) trivial).2.2]
    rfl

end DateTime

end MariaClient.Temporal
