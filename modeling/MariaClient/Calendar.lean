import MariaClient.Numbers

/-!
# The Gregorian calendar

Leap years, the lengths of months and years, and the numbering of the days of a year.  Every
check of a date in this library goes through `validDate`.
-/

namespace MariaClient.Calendar

/-- The last year that a date can have. -/
def maxYear : Nat := 65535

/-- Milliseconds in a second. -/
def msPerSecond : Nat := 1000

/-- Milliseconds in a minute. -/
def msPerMinute : Nat := 60 * msPerSecond

/-- Milliseconds in an hour. -/
def msPerHour : Nat := 60 * msPerMinute

/-- Milliseconds in a day without leap seconds. -/
def msPerDay : Nat := 24 * msPerHour

/-- Every fourth year, but of the centuries only every fourth. -/
def isLeapYear (year : Nat) : Bool :=
  year % 400 == 0 || (year % 4 == 0 && year % 100 != 0)

/-- The number of days of a year. -/
def daysInYear (year : Nat) : Nat :=
  if isLeapYear year then 366 else 365

/-- The number of days of a month, and zero if there is no such month. -/
def daysInMonth (year month : Nat) : Nat :=
  match month with
  | 1 | 3 | 5 | 7 | 8 | 10 | 12 => 31
  | 4 | 6 | 9 | 11 => 30
  | 2 => if isLeapYear year then 29 else 28
  | _ => 0

/-- A day of a month of a year from 1 to `maxYear`. -/
def validDate (year month day : Nat) : Bool :=
  1 ≤ year && year ≤ maxYear && 1 ≤ month && 1 ≤ day && day ≤ daysInMonth year month

/-- The days of the first `months` months of a year.  Months past December have none. -/
def daysBeforeMonth (year months : Nat) : Nat :=
  ((List.range (min months 12)).map fun m ↦ daysInMonth year (m + 1)).sum

/-- The number of a day within its year, counted from 1. -/
def dayOfYear (year month day : Nat) : Nat :=
  daysBeforeMonth year (month - 1) + day

/-- Looks for the month that holds the `n`-th of the days which begin with `month`. -/
def findMonth (year month n : Nat) : Nat → Option (Nat × Nat)
  | 0 => none
  | left + 1 =>
    if n ≤ daysInMonth year month then some (month, n)
    else findMonth year (month + 1) (n - daysInMonth year month) left

/-- The month and the day of the `n`-th day of a year, counted from 1. -/
def monthAndDay (year n : Nat) : Option (Nat × Nat) :=
  if n = 0 ∨ daysInYear year < n then none else findMonth year 1 n 12

end MariaClient.Calendar
