import MariaClient.Temporal.Reader
import MariaClient.Temporal.Span
import MariaClient.Temporal.WireTime

/-!
# Times of day

A time of day has a resolution of a millisecond and tolerates two leap seconds.  It has no date,
so its arithmetic wraps around midnight and never fails.
-/

namespace MariaClient.Temporal

open Calendar Text

/-- A time of day. -/
structure TimeOfDay where
  hour : Nat := 0
  minute : Nat := 0
  second : Nat := 0
  millisecond : Nat := 0
  deriving DecidableEq, Repr

namespace TimeOfDay

/-- The numbers that make a time of day.  A minute may have the seconds 60 and 61. -/
def valid (hour minute second millisecond : Nat) : Bool :=
  hour < 24 && minute < 60 && second < 62 && millisecond < 1000

/-- The time of day of the given numbers. -/
def of (hour minute second millisecond : Nat) : Except Error TimeOfDay :=
  if valid hour minute second millisecond then .ok { hour, minute, second, millisecond }
  else .error (.time hour minute second millisecond)

/-- Midnight. -/
def midnight : TimeOfDay := {}

/-- Reads a time of day. -/
def parse (s : String) : Except Error TimeOfDay := do
  let f ← Reader.time s
  of f.hour f.minute f.second f.millisecond

/-- The time of day of a wire value.  Its date and its sign are not looked at. -/
def ofWire (t : WireTime) : Except Error TimeOfDay :=
  of t.hour t.minute t.second t.millisecond

/-- The wire value of a time of day. -/
def toWire (t : TimeOfDay) : WireTime :=
  { hour := t.hour
    minute := t.minute
    second := t.second
    microsecond := t.millisecond * 1000
    kind := .time }

/-- The time that a clock shows whose leap second is a second with a thousand million
nanoseconds or more. -/
def ofClock (hour minute second nanosecond : Nat) : TimeOfDay :=
  if nanosecond < 1000000000 then
    { hour, minute, second, millisecond := nanosecond / 1000000 }
  else
    { hour, minute, second := second + 1, millisecond := (nanosecond - 1000000000) / 1000000 }

/-- The time with another hour. -/
def setHour (t : TimeOfDay) (hour : Nat) : Except Error TimeOfDay :=
  of hour t.minute t.second t.millisecond

/-- The time with another minute. -/
def setMinute (t : TimeOfDay) (minute : Nat) : Except Error TimeOfDay :=
  of t.hour minute t.second t.millisecond

/-- The time with another second. -/
def setSecond (t : TimeOfDay) (second : Nat) : Except Error TimeOfDay :=
  of t.hour t.minute second t.millisecond

/-- The time with another millisecond. -/
def setMillisecond (t : TimeOfDay) (millisecond : Nat) : Except Error TimeOfDay :=
  of t.hour t.minute t.second millisecond

/-- Times are ordered by the hour, then the minute, the second and the millisecond. -/
def order (t u : TimeOfDay) : Ordering :=
  (compare t.hour u.hour).then <| (compare t.minute u.minute).then <|
    (compare t.second u.second).then (compare t.millisecond u.millisecond)

/-- The milliseconds since midnight.  Leap seconds run past the end of their minute. -/
def msOfDay (t : TimeOfDay) : Nat :=
  t.hour * msPerHour + t.minute * msPerMinute + t.second * msPerSecond + t.millisecond

/-- The time of day so many milliseconds after some midnight. -/
def ofMsOfDay (ms : Int) : TimeOfDay :=
  let ms := (ms % msPerDay).toNat
  { hour := ms / msPerHour
    minute := ms % msPerHour / msPerMinute
    second := ms % msPerMinute / msPerSecond
    millisecond := ms % msPerSecond }

/-- Moves a time by some milliseconds around the day.  Moving by none keeps a leap second. -/
def shift (t : TimeOfDay) (ms : Int) : TimeOfDay :=
  if ms = 0 then t else ofMsOfDay (t.msOfDay + ms)

/-- Adds hours around the day. -/
def addHours (t : TimeOfDay) (n : Int) : TimeOfDay :=
  t.shift (n.tmod 24 * msPerHour)

/-- Adds minutes around the day. -/
def addMinutes (t : TimeOfDay) (n : Int) : TimeOfDay :=
  t.shift (n.tmod (24 * 60) * msPerMinute)

/-- Adds seconds around the day. -/
def addSeconds (t : TimeOfDay) (n : Int) : TimeOfDay :=
  t.shift (n.tmod (24 * 60 * 60) * msPerSecond)

/-- Adds milliseconds around the day. -/
def addMilliseconds (t : TimeOfDay) (n : Int) : TimeOfDay :=
  t.shift (n.tmod msPerDay)

/-- Adds the parts of a span one after the other, the hours first.  Its days do not matter. -/
def add (t : TimeOfDay) (s : Span) : TimeOfDay :=
  let sign : Int := if s.negative then -1 else 1
  (((t.addHours (sign * s.hours)).addMinutes (sign * s.minutes)).addSeconds
    (sign * s.seconds)).addMilliseconds (sign * s.milliseconds)

/-- Adds the span in the other direction. -/
def subtract (t : TimeOfDay) (s : Span) : TimeOfDay :=
  t.add s.flip

/-- The span from the earlier time `u` to the later time `t`.  A leap second may pass the start
of the next minute; the distance is then taken around the day. -/
def distance (t u : TimeOfDay) : Span :=
  let ms := t.msOfDay
  let other := u.msOfDay
  Span.ofDayMillis 0 (if ms < other then msPerDay - (other - ms) else ms - other) false

/-- The span from `u` to `t`.  It is negative if `u` is later. -/
def timeBetween (t u : TimeOfDay) : Span :=
  match t.order u with
  | .eq => {}
  | .lt => { u.distance t with negative := true }
  | .gt => t.distance u

/-- The text of a time, with or without the milliseconds. -/
def text (t : TimeOfDay) (millis : Bool) : String :=
  String.ofList <|
    padded 2 t.hour ++ ':' :: padded 2 t.minute ++ ':' :: padded 2 t.second ++
      if millis then '.' :: padded 3 t.millisecond else []

end TimeOfDay

end MariaClient.Temporal
