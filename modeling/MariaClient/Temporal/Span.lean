import MariaClient.Calendar
import MariaClient.Error

/-!
# Spans

A length of time with a sign: days and the part of a day.  The totals tell the magnitude only;
the sign stands beside them.
-/

namespace MariaClient.Temporal

open Calendar

/-- A length of time with a sign. -/
structure Span where
  negative : Bool := false
  days : Nat := 0
  hours : Nat := 0
  minutes : Nat := 0
  seconds : Nat := 0
  milliseconds : Nat := 0
  deriving DecidableEq, Repr

namespace Span

/-- Refuses a value past the limit of its part. -/
def check (part : SpanPart) (value : Nat) : Except Error Unit :=
  if part.limit < value then .error (.span part value) else .ok ()

/-- The span with one of its parts replaced. -/
def set (s : Span) (part : SpanPart) (value : Nat) : Except Error Span := do
  check part value
  return match part with
    | .hours => { s with hours := value }
    | .minutes => { s with minutes := value }
    | .seconds => { s with seconds := value }
    | .milliseconds => { s with milliseconds := value }

/-- The span of the given parts.  The first part past its limit is the error. -/
def of (days hours minutes seconds milliseconds : Nat) (negative : Bool) :
    Except Error Span := do
  let s : Span := { negative, days }
  let s ← s.set .hours hours
  let s ← s.set .minutes minutes
  let s ← s.set .seconds seconds
  s.set .milliseconds milliseconds

/-- The span of whole days and of the milliseconds of a day. -/
def ofDayMillis (days millis : Nat) (negative : Bool) : Span :=
  let millis := millis % msPerDay
  { negative
    days
    hours := millis / msPerHour
    minutes := millis % msPerHour / msPerMinute
    seconds := millis % msPerMinute / msPerSecond
    milliseconds := millis % msPerSecond }

/-- The same length in the other direction. -/
def flip (s : Span) : Span :=
  { s with negative := !s.negative }

/-- Every part is zero, whatever the sign. -/
def isZero (s : Span) : Bool :=
  s.days == 0 && s.hours == 0 && s.minutes == 0 && s.seconds == 0 && s.milliseconds == 0

/-- The whole hours of the span. -/
def totalHours (s : Span) : Nat :=
  s.days * 24 + s.hours

/-- The whole minutes of the span. -/
def totalMinutes (s : Span) : Nat :=
  s.totalHours * 60 + s.minutes

/-- The whole seconds of the span. -/
def totalSeconds (s : Span) : Nat :=
  s.totalMinutes * 60 + s.seconds

/-- The milliseconds of the span. -/
def totalMilliseconds (s : Span) : Nat :=
  s.totalSeconds * 1000 + s.milliseconds

/-- The milliseconds of the span with its sign. -/
def signedMilliseconds (s : Span) : Int :=
  if s.negative then -(s.totalMilliseconds : Int) else s.totalMilliseconds

/-- The parts of the span from the longest to the shortest. -/
def parts (s : Span) : List Nat :=
  [s.days, s.hours, s.minutes, s.seconds, s.milliseconds]

/-- Compares two lists of numbers by their first difference. -/
def compareParts : List Nat → List Nat → Ordering
  | [], [] => .eq
  | [], _ :: _ => .lt
  | _ :: _, [] => .gt
  | a :: as, b :: bs => (compare a b).then (compareParts as bs)

/-- Two spans of zero are equal.  Otherwise a negative span comes before one that is not, and
spans of one sign are ordered by their parts. -/
def order (s t : Span) : Ordering :=
  if s.isZero && t.isZero then .eq
  else match s.negative, t.negative with
    | true, false => .lt
    | false, true => .gt
    | _, _ => compareParts s.parts t.parts

/-- Neither span comes before the other. -/
def same (s t : Span) : Bool :=
  s.order t == .eq

/-- The text of a span. -/
def text (s : Span) : String :=
  (if s.negative then "negative " else "") ++
    s!"{s.days} days, {s.hours} hours, {s.minutes} minutes, {s.seconds} seconds, " ++
    s!"{s.milliseconds} milliseconds"

end Span

end MariaClient.Temporal
