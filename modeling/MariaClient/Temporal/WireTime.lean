/-!
# Temporal values on the wire

The fields of a date or a time as packets carry them, before anything has checked them.
-/

namespace MariaClient.Temporal

/-- Which fields of a wire value mean something. -/
inductive WireKind
  | none
  | date
  | dateTime
  | time
  deriving DecidableEq, Repr

namespace WireKind

/-- The name of a kind. -/
def name : WireKind → String
  | none => "None"
  | date => "Date"
  | dateTime => "DateTime"
  | time => "Time"

/-- The kind with a given name. -/
def ofName? (s : String) : Option WireKind :=
  [none, date, dateTime, time].find? fun k ↦ k.name == s

end WireKind

/-- The fields of a temporal value on the wire.  Hours may pass a day, and the fraction of the
second is in microseconds. -/
structure WireTime where
  year : Nat := 0
  month : Nat := 0
  day : Nat := 0
  hour : Nat := 0
  minute : Nat := 0
  second : Nat := 0
  microsecond : Nat := 0
  negative : Bool := false
  kind : WireKind := .none
  deriving DecidableEq, Repr

namespace WireTime

/-- The fraction of the second in milliseconds, cut off. -/
def millisecond (t : WireTime) : Nat :=
  t.microsecond / 1000

/-- Every number is zero, as for `0000-00-00` or `00:00:00`.  The sign does not matter. -/
def isZero (t : WireTime) : Bool :=
  t.year == 0 && t.month == 0 && t.day == 0 && t.hour == 0 && t.minute == 0
    && t.second == 0 && t.microsecond == 0

end WireTime

end MariaClient.Temporal
