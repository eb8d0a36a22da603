import MariaClient.Client.Channel
import MariaClient.Session.Server

/-!
# Replies

What a server sends in answer to a statement: counters, or the definitions of columns and rows up
to a packet that ends the list.  A statement may have several replies; all but the last say that
another one follows.
-/

namespace MariaClient

open Wire

/-- A reply to a statement.  Rows are kept as packets. -/
inductive Reply
  | done (d : Done)
  | rows (columns : List Column) (packets : List Bytes) (status : Nat)
  deriving DecidableEq, Repr

namespace Reply

/-- Another reply follows. -/
def moreResults : Reply → Bool
  | done d => d.moreResults
  | rows _ _ status => hasFlag status moreResultsFlag

/-- The reply to a query, whose rows are texts. -/
def toQueryResult : Reply → Except Error QueryResult
  | done d => .ok (.done d)
  | rows columns packets _ =>
    return .rows columns (← packets.mapM (textRow columns.length))

/-- The reply to a prepared statement, whose rows stay packets. -/
def toStatementResult : Reply → StatementResult
  | done d => .done d
  | rows columns packets _ => .rows columns packets

end Reply

namespace Channel

variable {α : Type}

/-- Takes a packet that does not tell of a failure. -/
def readChecked : Attempt Channel Bytes := do
  let packet ← readPacket
  checkErr packet
  return packet

theorem readChecked_consumes : Consumes readChecked :=
  readPacket_consumes.bind fun _ ↦ (consumes_ofExcept _).bind fun _ ↦ consumes_pure _

/-! ## Columns and rows -/

/-- Takes so many definitions of columns. -/
def readDefinitions : Nat → Attempt Channel (List Column)
  | 0 => return []
  | count + 1 => do
    let packet ← readPacket
    let column ← Column.parse packet
    let columns ← readDefinitions count
    return column :: columns

theorem readDefinitions_consumes (count : Nat) : Consumes (readDefinitions count) := by
  induction count with
  | zero => exact consumes_pure _
  | succ count ih =>
    exact readPacket_consumes.bind fun _ ↦
      (consumes_ofExcept _).bind fun _ ↦ ih.bind fun _ ↦ consumes_pure _

/-- Takes so many definitions of columns and, if there are any, the packet that ends them. -/
def readColumns (count : Nat) : Attempt Channel (List Column) := do
  let columns ← readDefinitions count
  if count = 0 then return columns
  let _ ← readChecked
  return columns

theorem readColumns_consumes (count : Nat) : Consumes (readColumns count) :=
  (readDefinitions_consumes count).bind fun _ ↦ by
    split
    · exact consumes_pure _
    · exact readChecked_consumes.bind fun _ ↦ consumes_pure _

/-- Takes rows up to the packet that ends them, and gives the status in that packet. -/
def readRows : Attempt Channel (List Bytes × Nat) := fun c ↦
  match _h : readPacket c with
  | (.error e, d) => (.error e, d)
  | (.ok packet, d) =>
    if isEof packet then (.ok ([], eofStatus packet), d)
    else
      match checkErr packet with
      | .error e => (.error e, d)
      | .ok () =>
        match readRows d with
        | (.ok (rows, status), d) => (.ok (packet :: rows, status), d)
        | (.error e, d) => (.error e, d)
termination_by c => c.incoming.length
decreasing_by exact readPacket_progresses _ _ _ _h

theorem readRows_consumes : Consumes readRows := by
  intro c
  fun_induction readRows c with
  | case1 c e d h => simpa [h] using readPacket_consumes c
  | case2 c packet d h => exact readPacket_consumes.of_ok h
  | case3 c packet d h => exact readPacket_consumes.of_ok h
  | case4 c packet d h _ _ rows status d' e ih =>
    exact Nat.le_trans (by simpa [e] using ih) (readPacket_consumes.of_ok h)
  | case5 c packet d h _ _ e' d' e ih =>
    exact Nat.le_trans (by simpa [e] using ih) (readPacket_consumes.of_ok h)

/-! ## Replies -/

/-- The number of columns that the first packet of a reply announces. -/
def columnCount (packet : Bytes) : Except Error Nat := do
  return (← Reader.lenEncInt.run packet).getD 0

/-- Takes the rest of a reply after its first packet. -/
def readReplyAfter (first : Bytes) : Attempt Channel Reply := do
  checkErr first
  if isOk first then return .done (← Done.parse first)
  else if first.head? = some 0xfb then Attempt.fail (.protocol .fileRequested)
  else
    let columns ← readColumns (← columnCount first)
    let (packets, status) ← readRows
    return .rows columns packets status

theorem readReplyAfter_consumes (first : Bytes) : Consumes (readReplyAfter first) := by
  refine (consumes_ofExcept _).bind fun _ ↦ ?_
  split
  · exact (consumes_ofExcept _).bind fun _ ↦ consumes_pure _
  · split
    · exact consumes_fail _
    · exact (consumes_ofExcept _).bind fun _ ↦ (readColumns_consumes _).bind fun _ ↦
        readRows_consumes.bind fun _ ↦ consumes_pure _

/-- Takes one reply. -/
def readReply : Attempt Channel Reply := do
  readReplyAfter (← readPacket)

/-- Takes one reply and reads it. -/
def readReplyAs (read : Reply → Except Error α) : Attempt Channel (Reply × α) := do
  let reply ← readReply
  return (reply, ← read reply)

theorem readReply_progresses : Progresses readReply :=
  readPacket_progresses.bind readReplyAfter_consumes

theorem readReplyAs_progresses (read : Reply → Except Error α) : Progresses (readReplyAs read) :=
  readReply_progresses.bind fun _ ↦ (consumes_ofExcept _).bind fun _ ↦ consumes_pure _

/-- Takes all replies to a statement.  Each is read before the next one is taken. -/
def readReplies (read : Reply → Except Error α) : Attempt Channel (List α) := fun c ↦
  match _h : readReplyAs read c with
  | (.error e, d) => (.error e, d)
  | (.ok (reply, a), d) =>
    if reply.moreResults then
      match readReplies read d with
      | (.ok more, d) => (.ok (a :: more), d)
      | (.error e, d) => (.error e, d)
    else (.ok [a], d)
termination_by c => c.incoming.length
decreasing_by exact readReplyAs_progresses _ _ _ _ _h

end Channel

end MariaClient
