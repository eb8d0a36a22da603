import MariaClient.Binding
import MariaClient.Wire.Command

/-!
# Executing prepared statements

The command that executes a prepared statement with its parameters.
-/

namespace MariaClient.Wire

open Temporal

/-- Bits packed into bytes, the first into the lowest bit. -/
def packBits (flags : List Bool) : Bytes :=
  let rec go : Nat → List Bool → Bytes
    | 0, _ => []
    | count + 1, flags =>
      UInt8.ofNat ((flags.take 8).zipIdx.foldr
        (fun (flag, i) n ↦ (if flag then 2 ^ i else 0) + n) 0) :: go count (flags.drop 8)
  go ((flags.length + 7) / 8) flags

/-- A length of time after the number of its bytes.  Zero has none, and microseconds are left
out if there are none. -/
def encodeTime (t : WireTime) : Bytes :=
  if t.isZero then [0]
  else
    let fixed :=
      (if t.negative then 1 else 0) :: toLE 4 (t.hour / 24) ++
        [UInt8.ofNat (t.hour % 24), UInt8.ofNat t.minute, UInt8.ofNat t.second]
    if t.microsecond = 0 then 8 :: fixed else 12 :: fixed ++ toLE 4 t.microsecond

/-- A date with or without a time after the number of its bytes.  Zero has none; the time is
left out at midnight and of types that are only dates. -/
def encodeDate (fieldType : FieldType) (t : WireTime) : Bytes :=
  let dateOnly := fieldType == .date || fieldType == .newDate
  let date := toLE 2 t.year ++ [UInt8.ofNat t.month, UInt8.ofNat t.day]
  let clock := [UInt8.ofNat t.hour, UInt8.ofNat t.minute, UInt8.ofNat t.second]
  if t.isZero then [0]
  else if !dateOnly && t.microsecond != 0 then 11 :: date ++ clock ++ toLE 4 t.microsecond
  else if !dateOnly && (t.hour != 0 || t.minute != 0 || t.second != 0) then 7 :: date ++ clock
  else 4 :: date

/-- A temporal value of a type. -/
def encodeTemporal (fieldType : FieldType) (t : WireTime) : Bytes :=
  if fieldType = .time then encodeTime t else encodeDate fieldType t

/-- The value of a parameter. -/
def encodeValue (b : Binding) : Bytes :=
  match b.storage with
  | .scalar _ => b.scalarBytes
  | .time t => encodeTemporal b.fieldType t
  | .bytes bs => lenEncBytes bs
  | .empty => [0]

/-- The type of a parameter and whether its integers have no sign.  Single bits are sent as small
integers. -/
def encodeType (b : Binding) : Bytes :=
  let code := if b.fieldType = .bit then FieldType.tiny.code else b.fieldType.code
  [code, if b.unsigned then 0x80 else 0]

/-- Executes a prepared statement once, without a cursor. -/
def executeCommand (statementId : Nat) (params : List Binding) : Bytes :=
  let head := CommandCode.execute.byte :: toLE 4 statementId ++ 0 :: toLE 4 1
  if params = [] then head
  else
    head ++ packBits (params.map (·.isNull)) ++ 1 :: params.flatMap encodeType ++
      (params.filter fun b ↦ !b.isNull).flatMap encodeValue

end MariaClient.Wire
