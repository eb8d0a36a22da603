import MariaClient.Attempt
import MariaClient.Wire.Bytes

/-!
# Sources of bytes

Bytes that a caller gives piece by piece, and that are taken together before they are used.
-/

namespace MariaClient

open Wire

/-- What one read of a source gives.  No bytes are its end. -/
inductive Piece
  | bytes (bs : Bytes)
  | interrupted
  | failed (cause : IoFault)
  deriving DecidableEq, Repr

/-- What the reads of a source give, one after the other.  Behind the last of them it is at its
end. -/
abbrev Source : Type :=
  List Piece

namespace Source

/-- Takes all bytes up to the end of a source.  Reads that are interrupted are tried again.  If a
read fails, what was taken before is lost. -/
def readToEnd : Source → Except Error Bytes × Source
  | [] => (.ok [], [])
  | .bytes [] :: rest => (.ok [], rest)
  | .bytes bs :: rest =>
    let (taken, rest) := readToEnd rest
    (taken.map (bs ++ ·), rest)
  | .interrupted :: rest => readToEnd rest
  | .failed cause :: rest => (.error (.io cause), rest)

end Source

end MariaClient
