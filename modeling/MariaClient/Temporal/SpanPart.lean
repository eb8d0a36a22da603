/-!
# Parts of a span

The parts of a length of time below its days, with their limits.
-/

namespace MariaClient.Temporal

/-- A part of a span that has a limit. -/
inductive SpanPart
  | hours
  | minutes
  | seconds
  | milliseconds
  deriving DecidableEq, Repr

namespace SpanPart

/-- The name of a part in messages. -/
def name : SpanPart → String
  | hours => "hours"
  | minutes => "minutes"
  | seconds => "seconds"
  | milliseconds => "milliseconds"

/-- The largest value of a part.  A minute may have a leap second. -/
def limit : SpanPart → Nat
  | hours => 23
  | minutes => 59
  | seconds => 60
  | milliseconds => 999

end SpanPart

end MariaClient.Temporal
