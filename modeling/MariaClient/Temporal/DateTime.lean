import MariaClient.Temporal.TimeOfDay

/-!
# Dates with a time of day

A date of the years 1 to 65535 with a time of day.  Arithmetic carries from the smaller fields
into the larger ones in both directions and fails only where it would leave those years.
-/

namespace MariaClient.Temporal

open Calendar Text

/-- A date with a time of day. -/
structure DateTime where
  year : Nat := 1900
  month : Nat := 1
  day : Nat := 1
  time : TimeOfDay := {}
  deriving DecidableEq, Repr

namespace DateTime

/-- The error that shows the given numbers. -/
def invalid (year month day : Nat) (time : TimeOfDay) : Error :=
  .dateTime year month day time.hour time.minute time.second time.millisecond

/-- The date and time of the given numbers. -/
def of (year month day hour minute second millisecond : Nat) : Except Error DateTime :=
  if validDate year month day && TimeOfDay.valid hour minute second millisecond then
    .ok { year, month, day, time := { hour, minute, second, millisecond } }
  else .error (.dateTime year month day hour minute second millisecond)

/-- Midnight of a date. -/
def ofDate (year month day : Nat) : Except Error DateTime :=
  of year month day 0 0 0 0

/-- A time on the first day of 1900. -/
def ofTime (time : TimeOfDay) : DateTime :=
  { time }

/-- Reads a date that may have a time. -/
def parse (s : String) : Except Error DateTime := do
  let f ← Reader.dateTime s
  of f.year f.month f.day f.time.hour f.time.minute f.time.second f.time.millisecond

/-- The date and time of a wire value.  A value that is only a time falls on the first day of
1900. -/
def ofWire (t : WireTime) : Except Error DateTime :=
  match t.kind with
  | .time => (TimeOfDay.ofWire t).map ofTime
  | _ => of t.year t.month t.day t.hour t.minute t.second t.millisecond

/-- The wire value of a date and time.  At midnight it is only a date. -/
def toWire (d : DateTime) : WireTime :=
  { d.time.toWire with
    year := d.year
    month := d.month
    day := d.day
    kind := if d.time = .midnight then .date else .dateTime }

/-- The date and time that a calendar and a clock show, for any year of the Gregorian calendar
counted backwards too. -/
def ofCivil (year : Int) (month day : Nat) (time : TimeOfDay) : Except Error DateTime :=
  if validDate year.toNat month day then .ok { year := year.toNat, month, day, time }
  else .error (invalid year.toNat month day time)

/-- The date of the `n`-th day of a year. -/
def ofDayOfYear (year n : Nat) : Except Error DateTime :=
  match monthAndDay year n with
  | none => .error (invalid year 0 n {})
  | some (month, day) => ofDate year month day

/-! ## Single fields -/

/-- The date and time with another year.  A day that the year does not have becomes the first. -/
def setYear (d : DateTime) (year : Nat) : Except Error DateTime :=
  if 1 ≤ year ∧ year ≤ maxYear then
    .ok { d with year, day := if validDate year d.month d.day then d.day else 1 }
  else .error (invalid year d.month d.day d.time)

/-- The date and time with another month.  A day that the month does not have becomes the
first. -/
def setMonth (d : DateTime) (month : Nat) : Except Error DateTime :=
  if 1 ≤ month ∧ month ≤ 12 then
    .ok { d with month, day := if validDate d.year month d.day then d.day else 1 }
  else .error (invalid d.year month d.day d.time)

/-- The date and time with another day. -/
def setDay (d : DateTime) (day : Nat) : Except Error DateTime :=
  if validDate d.year d.month day then .ok { d with day }
  else .error (invalid d.year d.month day d.time)

/-- The date and time with another time of day, if that time was accepted. -/
def setTime (d : DateTime) (refused : TimeOfDay) (time : Except Error TimeOfDay) :
    Except Error DateTime :=
  match time with
  | .ok time => .ok { d with time }
  | .error _ => .error (invalid d.year d.month d.day refused)

/-- The date and time with another hour. -/
def setHour (d : DateTime) (hour : Nat) : Except Error DateTime :=
  d.setTime { d.time with hour } (d.time.setHour hour)

/-- The date and time with another minute. -/
def setMinute (d : DateTime) (minute : Nat) : Except Error DateTime :=
  d.setTime { d.time with minute } (d.time.setMinute minute)

/-- The date and time with another second. -/
def setSecond (d : DateTime) (second : Nat) : Except Error DateTime :=
  d.setTime { d.time with second } (d.time.setSecond second)

/-- The date and time with another millisecond. -/
def setMillisecond (d : DateTime) (millisecond : Nat) : Except Error DateTime :=
  d.setTime { d.time with millisecond } (d.time.setMillisecond millisecond)

/-- The number of the day within its year. -/
def dayOfYear (d : DateTime) : Nat :=
  Calendar.dayOfYear d.year d.month d.day

/-- The same time on the `n`-th day of the year. -/
def setDayOfYear (d : DateTime) (n : Nat) : Except Error DateTime := do
  let date ← ofDayOfYear d.year n
  return { d with month := date.month, day := date.day }

/-- The same date at midnight. -/
def date (d : DateTime) : DateTime :=
  { d with time := .midnight }

/-! ## Arithmetic -/

/-- The error of a result in the given year, which no date can have. -/
def outOfYears (d : DateTime) (year : Nat) : Error :=
  invalid year d.month d.day d.time

/-- The largest number that an error shows for a year. -/
def unboundedYear : Nat := 2 ^ 32 - 1

/-- The same time in another month.  A day that the month does not have becomes the first. -/
def withMonth (d : DateTime) (year : Int) (month : Nat) : Except Error DateTime :=
  if 1 ≤ year ∧ year ≤ maxYear then
    let y := year.toNat
    .ok { d with year := y, month, day := if validDate y month d.day then d.day else 1 }
  else .error (d.outOfYears (min year.toNat unboundedYear))

/-- Adds years. -/
def addYears (d : DateTime) (n : Int) : Except Error DateTime :=
  if n = 0 then .ok d else d.withMonth (d.year + n) d.month

/-- Adds months. -/
def addMonths (d : DateTime) (n : Int) : Except Error DateTime :=
  if n = 0 then .ok d
  else
    let total : Int := d.year * 12 + ((d.month : Int) - 1) + n
    d.withMonth (total / 12) ((total % 12).toNat + 1)

/-- Counts `n` days from the start of `year` through at most `left` more years, to the year that
holds the last of them and its number there. -/
def daysForward (year n : Nat) : Nat → Option (Nat × Nat)
  | 0 => if n ≤ daysInYear year then some (year, n) else none
  | left + 1 =>
    if n ≤ daysInYear year then some (year, n)
    else daysForward (year + 1) (n - daysInYear year) left

/-- The year and the number in it of the day that is number `n`, not above a year's length,
counted from the start of the given year. -/
def daysBackward : Nat → Int → Option (Nat × Nat)
  | 0, _ => none
  | year + 1, n =>
    if 1 ≤ n then some (year + 1, n.toNat) else daysBackward year (n + daysInYear year)

/-- Adds days.  Where the number of the day within the year passes a signed word of 64 bits, the
error shows the largest year that an error can show. -/
def addDays (d : DateTime) (n : Int) : Except Error DateTime :=
  if n = 0 then .ok d
  else
    let target : Int := d.dayOfYear + n
    if !fitsSigned 64 target then
      .error (d.outOfYears (if 0 < n then unboundedYear else 0))
    else
      let found :=
        if 1 ≤ target then daysForward d.year target.toNat (maxYear - d.year)
        else daysBackward d.year target
      match found with
      | none => .error (d.outOfYears (if 0 < n then maxYear + 1 else 0))
      | some (year, k) => (ofDayOfYear year k).map fun date ↦ { date with time := d.time }

/-- Adds milliseconds, which carry into the days. -/
def addMilliseconds (d : DateTime) (n : Int) : Except Error DateTime :=
  if n = 0 then .ok d
  else
    let total : Int := d.time.msOfDay + n
    if !fitsSigned 64 total then .error (d.outOfYears unboundedYear)
    else (d.addDays (total / msPerDay)).map fun e ↦
      { e with time := .ofMsOfDay (total % msPerDay) }

/-- Adds so many units of a number of milliseconds, if that is a signed word of 64 bits. -/
def addUnits (d : DateTime) (n : Int) (unit : Nat) : Except Error DateTime :=
  if fitsSigned 64 (n * unit) then d.addMilliseconds (n * unit)
  else .error (d.outOfYears unboundedYear)

/-- Adds hours. -/
def addHours (d : DateTime) (n : Int) : Except Error DateTime :=
  d.addUnits n msPerHour

/-- Adds minutes. -/
def addMinutes (d : DateTime) (n : Int) : Except Error DateTime :=
  d.addUnits n msPerMinute

/-- Adds seconds. -/
def addSeconds (d : DateTime) (n : Int) : Except Error DateTime :=
  d.addUnits n msPerSecond

/-- Adds a span, its days included. -/
def add (d : DateTime) (s : Span) : Except Error DateTime :=
  d.addMilliseconds s.signedMilliseconds

/-- Adds the span in the other direction. -/
def subtract (d : DateTime) (s : Span) : Except Error DateTime :=
  d.add s.flip

/-- Adds a time of day as a length of time. -/
def addTime (d : DateTime) (t : TimeOfDay) : Except Error DateTime :=
  d.addMilliseconds t.msOfDay

/-- Takes a time of day off as a length of time. -/
def subtractTime (d : DateTime) (t : TimeOfDay) : Except Error DateTime :=
  d.addMilliseconds (-(t.msOfDay : Int))

/-! ## Order and distance -/

/-- Dates are ordered by the year, the month and the day, then by the time. -/
def order (d e : DateTime) : Ordering :=
  (compare d.year e.year).then <| (compare d.month e.month).then <|
    (compare d.day e.day).then (d.time.order e.time)

/-- The days of the years from `first` up to but not including the year `count` years later. -/
def daysOfYears (first count : Nat) : Nat :=
  ((List.range count).map fun k ↦ daysInYear (first + k)).sum

/-- The days from the date of `e` to the date of `d`, whose year is not an earlier one. -/
def daysSince (d e : DateTime) : Int :=
  daysOfYears e.year (d.year - e.year) + d.dayOfYear - e.dayOfYear

/-- The milliseconds from `e` to `d`, which is not an earlier one.  Leap seconds run past the end
of their day. -/
def msSince (d e : DateTime) : Int :=
  d.daysSince e * msPerDay + d.time.msOfDay - e.time.msOfDay

/-- The milliseconds from `e` to `d` with their sign. -/
def msBetween (d e : DateTime) : Int :=
  if d.order e = .lt then -(e.msSince d) else d.msSince e

/-- The span from `e` to `d`. -/
def timeBetween (d e : DateTime) : Span :=
  let total := d.msBetween e
  Span.ofDayMillis (total.natAbs / msPerDay) (total.natAbs % msPerDay) (total < 0)

/-! ## Text -/

/-- The date alone. -/
def dateText (d : DateTime) : String :=
  String.ofList (padded 4 d.year ++ '-' :: padded 2 d.month ++ '-' :: padded 2 d.day)

/-- The date and the time, with or without the milliseconds. -/
def text (d : DateTime) (millis : Bool) : String :=
  d.dateText ++ " " ++ d.time.text millis

end DateTime

end MariaClient.Temporal
