import MariaClient.Wire.Reader

/-!
# Commands and frames

The packets with which a client asks, and the frames in which payloads of any length travel.
-/

namespace MariaClient.Wire

/-- The largest payload of one frame. -/
def maxPayload : Nat := 0xffffff

/-- A payload behind its length and its number in the sequence. -/
def frame (seq : UInt8) (payload : Bytes) : Bytes :=
  toLE 3 payload.length ++ seq :: payload

/-- A piece of a payload with its number in the sequence. -/
structure Frame where
  seq : UInt8
  payload : Bytes
  deriving DecidableEq, Repr

/-- The bytes of a frame. -/
def Frame.encode (f : Frame) : Bytes :=
  frame f.seq f.payload

/-- Cuts a payload into frames of the largest size and a last one that is smaller, which may be
empty.  The first argument bounds the number of full frames. -/
def framesUpTo : Nat → UInt8 → Bytes → List Frame
  | 0, seq, payload => [⟨seq, payload⟩]
  | count + 1, seq, payload =>
    if payload.length < maxPayload then [⟨seq, payload⟩]
    else ⟨seq, payload.take maxPayload⟩ ::
      framesUpTo count (seq + 1) (payload.drop maxPayload)

/-- The frames of a payload, numbered from `seq` on. -/
def frames (seq : UInt8) (payload : Bytes) : List Frame :=
  framesUpTo (payload.length / maxPayload) seq payload

/-- The commands that this client sends. -/
inductive CommandCode
  | quit
  | initDb
  | query
  | ping
  | prepare
  | execute
  | closeStatement
  deriving DecidableEq, Repr

/-- The byte of a command. -/
def CommandCode.byte : CommandCode → UInt8
  | quit => 0x01
  | initDb => 0x02
  | query => 0x03
  | ping => 0x0e
  | prepare => 0x16
  | execute => 0x17
  | closeStatement => 0x19

/-- A command byte in front of its argument. -/
def command (code : UInt8) (argument : Bytes) : Bytes :=
  code :: argument

/-- Runs a text of statements. -/
def queryCommand (sql : String) : Bytes :=
  command CommandCode.query.byte (Text.encode sql)

/-- Forgets a prepared statement.  The server does not answer. -/
def closeStatementCommand (statementId : Nat) : Bytes :=
  command CommandCode.closeStatement.byte (toLE 4 statementId)

end MariaClient.Wire
