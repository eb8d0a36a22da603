import MariaClient.Wire.Command
import MariaClient.Wire.Packet

/-!
# The handshake

The packet with which a server greets, and the packets with which a client answers it.
-/

namespace MariaClient.Wire

/-! ## The abilities that a client and a server agree on, as bits -/

namespace Capability

/-- Long passwords. -/
def longPassword : Nat := 0x00000001

/-- Column flags of two bytes. -/
def longFlag : Nat := 0x00000004

/-- The answer names a database. -/
def connectWithDb : Nat := 0x00000008

/-- The packets of version 4.1. -/
def protocol41 : Nat := 0x00000200

/-- The connection may go on under TLS. -/
def ssl : Nat := 0x00000800

/-- Status flags of transactions. -/
def transactions : Nat := 0x00002000

/-- A scramble of two parts. -/
def secureConnection : Nat := 0x00008000

/-- Several statements in one query. -/
def multiStatements : Nat := 0x00010000

/-- Several results of one query. -/
def multiResults : Nat := 0x00020000

/-- Several results of one prepared statement. -/
def psMultiResults : Nat := 0x00040000

/-- The way to authenticate is named. -/
def pluginAuth : Nat := 0x00080000

/-- What this client always offers. -/
def offered : Nat :=
  longPassword ||| longFlag ||| protocol41 ||| transactions ||| secureConnection |||
    multiStatements ||| multiResults ||| psMultiResults ||| pluginAuth

end Capability

/-- The greeting of a server. -/
structure Greeting where
  protocolVersion : UInt8
  serverVersion : String
  connectionId : Nat
  scramble : Bytes
  capabilities : Nat
  charset : UInt8
  statusFlags : Nat
  plugin : String
  deriving DecidableEq, Repr

namespace Greeting

/-- The bytes without the zero bytes at their end. -/
def trimNul (bs : Bytes) : Bytes :=
  (bs.reverse.dropWhile (· == 0)).reverse

/-- Takes the second part of the scramble, which has at least 13 bytes if there are so many. -/
def secondPart (capabilities length : Nat) : Reader Bytes := do
  if hasFlag capabilities Capability.secureConnection then
    let left ← Reader.remaining
    Reader.bytes (min (max (length - 8) 13) left.length)
  else return []

/-- Takes the name of the way to authenticate, if the server names one. -/
def pluginReader (capabilities : Nat) : Reader String := do
  if hasFlag capabilities Capability.pluginAuth then return Text.decode (← Reader.nulBytes)
  else return ""

/-- Takes the fields of a greeting after its version. -/
def fields (protocolVersion : UInt8) : Reader Greeting := do
  let serverVersion := Text.decode (← Reader.nulBytes)
  let connectionId ← Reader.le 4
  let firstPart ← Reader.bytes 8
  let _filler ← Reader.byte
  let lower ← Reader.le 2
  let charset ← Reader.byte
  let statusFlags ← Reader.le 2
  let upper ← Reader.le 2
  let capabilities := lower + 65536 * upper
  let length := (← Reader.byte).toNat
  let _reserved ← Reader.bytes 10
  let second ← secondPart capabilities length
  let plugin ← pluginReader capabilities
  return {
    protocolVersion, serverVersion, connectionId
    scramble := trimNul (firstPart ++ second)
    capabilities, charset, statusFlags, plugin }

/-- Takes a greeting.  A server that does not want to greet tells of a failure instead. -/
def reader (packet : Bytes) : Reader Greeting := do
  let version ← Reader.byte
  if version = 0xff then Attempt.fail (errorOf packet) else fields version

/-- Reads a greeting. -/
def parse (packet : Bytes) : Except Error Greeting :=
  (reader packet).run packet

end Greeting

/-- The fixed part in front of the packets with which a client answers a greeting. -/
def clientHeader (capabilities : Nat) (charset : UInt8) : Bytes :=
  toLE 4 capabilities ++ toLE 4 maxPayload ++ charset :: List.replicate 23 0

/-- A text that ends with a zero byte. -/
def nulText (s : String) : Bytes :=
  Text.encode s ++ [0]

/-- The answer to a greeting: who wants to log in, the proof of it and the database. -/
def handshakeResponse (capabilities : Nat) (user : String) (proof : Bytes) (database : String)
    (charset : UInt8) (plugin : String) : Bytes :=
  clientHeader capabilities charset ++ nulText user ++
    UInt8.ofNat proof.length :: proof ++
    (if hasFlag capabilities Capability.connectWithDb then nulText database else []) ++
    nulText plugin

/-- Asks to go on under TLS. -/
def sslRequest (capabilities : Nat) (charset : UInt8) : Bytes :=
  clientHeader (capabilities ||| Capability.ssl) charset

/-- The number of a character set for the handshake.  Names may be in any case. -/
def charsetId? (name : String) : Option UInt8 :=
  let name := String.ofList (name.toList.map Char.toLower)
  if name = "utf8mb4" then some 45
  else if name = "utf8" ∨ name = "utf8mb3" then some 33
  else if name = "latin1" then some 8
  else if name = "binary" then some 63
  else none

end MariaClient.Wire
