import MariaClient.Wire.Reader

/-!
# Answers of the server

The short packets with which a server answers: success, failure and the end of a list.
-/

namespace MariaClient.Wire

/-- The status flag of an answer that another one follows. -/
def moreResultsFlag : Nat := 0x0008

/-- Whether a flag is set. -/
def hasFlag (flags flag : Nat) : Bool :=
  flags &&& flag != 0

/-- A packet that tells of success. -/
def isOk (packet : Bytes) : Bool :=
  packet.head? == some 0x00

/-- A packet that tells of a failure. -/
def isErr (packet : Bytes) : Bool :=
  packet.head? == some 0xff

/-- A packet that ends a list.  A longer packet that begins with the same byte does not. -/
def isEof (packet : Bytes) : Bool :=
  packet.head? == some 0xfe && decide (packet.length < 9)

/-- The outcome of a statement without rows. -/
structure Done where
  affectedRows : Nat := 0
  lastInsertId : Nat := 0
  statusFlags : Nat := 0
  warnings : Nat := 0
  deriving DecidableEq, Repr

namespace Done

/-- Another answer follows. -/
def moreResults (d : Done) : Bool :=
  hasFlag d.statusFlags moreResultsFlag

/-- Takes the numbers of a packet that tells of success. -/
def reader : Reader Done := do
  let _ ← Reader.byte
  let affectedRows := (← Reader.lenEncInt).getD 0
  let lastInsertId := (← Reader.lenEncInt).getD 0
  let statusFlags ← Reader.le 2
  let warnings ← Reader.le 2
  return { affectedRows, lastInsertId, statusFlags, warnings }

/-- Reads a packet that tells of success. -/
def parse (packet : Bytes) : Except Error Done :=
  reader.run packet

end Done

/-- The status flags of a packet that ends a list.  Short packets have none. -/
def eofStatus (packet : Bytes) : Nat :=
  if 5 ≤ packet.length then ofLE ((packet.drop 3).take 2) else 0

/-- A failure that the server tells of. -/
structure ServerError where
  code : Nat
  sqlState : String
  message : String
  deriving DecidableEq, Repr

namespace ServerError

/-- Takes the marked state of a failure, which old servers leave out. -/
def stateReader : Reader String := do
  let left ← Reader.remaining
  if left.head? = some 0x23 then
    return Text.decode ((← Reader.bytes (min 6 left.length)).drop 1)
  else return ""

/-- Takes the fields of a failure. -/
def reader : Reader ServerError := do
  let _ ← Reader.byte
  let code ← Reader.le 2
  let sqlState ← stateReader
  let message ← Reader.rest
  return { code, sqlState, message := Text.decode message }

/-- Reads a packet that tells of a failure. -/
def parse (packet : Bytes) : Except Error ServerError :=
  reader.run packet

/-- The failure as an error. -/
def toError (e : ServerError) : Error :=
  .server e.code e.message

end ServerError

/-- The error in a packet that tells of a failure. -/
def errorOf (packet : Bytes) : Error :=
  match ServerError.parse packet with
  | .ok e => e.toError
  | .error e => e

/-- Lets every packet pass that does not tell of a failure. -/
def checkErr (packet : Bytes) : Except Error Unit :=
  if isErr packet then .error (errorOf packet) else .ok ()

/-- What the server tells of a statement that it prepared. -/
structure PrepareOk where
  statementId : Nat
  columns : Nat
  params : Nat
  warnings : Nat
  deriving DecidableEq, Repr

namespace PrepareOk

/-- Takes the warnings, which may be left out. -/
def warningsReader : Reader Nat := do
  let left ← Reader.remaining
  if 2 ≤ left.length then Reader.le 2 else return 0

/-- Takes the fields of the answer to a prepared statement. -/
def reader : Reader PrepareOk := do
  let _ ← Reader.byte
  let statementId ← Reader.le 4
  let columns ← Reader.le 2
  let params ← Reader.le 2
  let _ ← Reader.byte
  let warnings ← warningsReader
  return { statementId, columns, params, warnings }

/-- Reads the answer to a prepared statement. -/
def parse (packet : Bytes) : Except Error PrepareOk :=
  reader.run packet

end PrepareOk

/-- Reads a row of so many texts, where some may be missing. -/
def textRow (columns : Nat) (packet : Bytes) : Except Error (List (Option Bytes)) :=
  (Reader.times Reader.lenEncBytes columns).run packet

end MariaClient.Wire
