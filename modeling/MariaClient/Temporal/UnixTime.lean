import MariaClient.Temporal.DateTime

/-!
# Seconds since 1970

The calendar and clock reading, without leap seconds, of a number of seconds counted from the
start of 1970.  Readings exist for the years from -262143 to 262142 of the Gregorian calendar
counted backwards.
-/

namespace MariaClient.Temporal.UnixTime

open Calendar

/-- The days from the first day of the year 1 to the first day of 1970. -/
def epochDay : Int := 719162

/-- The days of four hundred years. -/
def daysInCycle : Int := 146097

/-- The first and the last second that have a reading. -/
def bounds : Int × Int :=
  (-8334601228800, 8210266876799)

/-- What a calendar and a clock show, for any year of the Gregorian calendar counted backwards
too.  The clock shows a leap second as the last second of a minute with a thousand million
nanoseconds or more. -/
structure Reading where
  year : Int
  month : Nat
  day : Nat
  hour : Nat
  minute : Nat
  second : Nat
  nanosecond : Nat
  deriving DecidableEq, Repr

/-- The time of day that a clock shows. -/
def Reading.time (r : Reading) : TimeOfDay :=
  .ofClock r.hour r.minute r.second r.nanosecond

/-- The year and the number within it of a day counted from the first day of the year 1.  The
calendar repeats itself after four hundred years. -/
def yearAndDay (n : Int) : Int × Nat :=
  let cycle := n / daysInCycle
  match DateTime.daysForward 1 ((n % daysInCycle).toNat + 1) 399 with
  | some (year, day) => (400 * cycle + year, day)
  | none => (0, 0)

/-- The reading at a second. -/
def reading? (seconds : Int) : Option Reading :=
  if bounds.1 ≤ seconds ∧ seconds ≤ bounds.2 then
    let (year, n) := yearAndDay (epochDay + seconds / 86400)
    let left := (seconds % 86400).toNat
    (monthAndDay (year % 400).toNat n).map fun (month, day) ↦
      { year
        month
        day
        hour := left / 3600
        minute := left % 3600 / 60
        second := left % 60
        nanosecond := 0 }
  else none

/-- The date and time at a second, of which `breakDown` gives the reading. -/
def dateTimeBy (breakDown : Int → Option Reading) (seconds : Int) : Except Error DateTime :=
  match breakDown seconds with
  | none => .error (.format .timestamp (Text.ofInt seconds))
  | some r => DateTime.ofCivil r.year r.month r.day r.time

/-- The time of day at a second, of which `breakDown` gives the reading. -/
def timeOfDayBy (breakDown : Int → Option Reading) (seconds : Int) : Except Error TimeOfDay :=
  match breakDown seconds with
  | none => .error (.format .timestamp (Text.ofInt seconds))
  | some r => .ok r.time

/-- The date and time at a second. -/
def dateTime (seconds : Int) : Except Error DateTime :=
  dateTimeBy reading? seconds

/-- The time of day at a second. -/
def timeOfDay (seconds : Int) : Except Error TimeOfDay :=
  timeOfDayBy reading? seconds

end MariaClient.Temporal.UnixTime
