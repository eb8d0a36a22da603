import MariaClient.Binding
import MariaClient.Wire.Column

/-!
# Binary rows

Rows of prepared statements carry a byte of zero, a bitmap of the missing cells and the present
cells in order.  A row is decoded into one binding for each column.  Where it breaks off, the
bindings before that cell already hold the new row.
-/

namespace MariaClient.Wire

open Temporal

/-- Whether a bit of a bitmap is set. -/
def testBit (bitmap : Bytes) (bit : Nat) : Bool :=
  match bitmap[bit / 8]? with
  | some b => b.toNat.testBit (bit % 8)
  | none => false

/-- Takes a length of time from its bytes. -/
def timeFields (length : Nat) : Reader WireTime := do
  let t : WireTime := { kind := .time }
  let t ←
    if 8 ≤ length then do
      let negative := (← Reader.byte) != 0
      let days ← Reader.le 4
      let hour := days * 24 + (← Reader.byte).toNat
      if 2 ^ 32 ≤ hour then Attempt.fail (.protocol (.timeDays days))
      let minute := (← Reader.byte).toNat
      let second := (← Reader.byte).toNat
      pure { t with negative, hour, minute, second }
    else pure t
  if 12 ≤ length then return { t with microsecond := ← Reader.le 4 } else return t

/-- Takes a date, and a time if there is one, from its bytes. -/
def dateFields (fieldType : FieldType) (length : Nat) : Reader WireTime := do
  let kind := if fieldType = .date ∨ fieldType = .newDate then .date else .dateTime
  let t : WireTime := { kind }
  let t ←
    if 4 ≤ length then do
      let year ← Reader.le 2
      let month := (← Reader.byte).toNat
      let day := (← Reader.byte).toNat
      pure { t with year, month, day }
    else pure t
  let t ←
    if 7 ≤ length then do
      let hour := (← Reader.byte).toNat
      let minute := (← Reader.byte).toNat
      let second := (← Reader.byte).toNat
      pure { t with hour, minute, second }
    else pure t
  if 11 ≤ length then return { t with microsecond := ← Reader.le 4 } else return t

/-- Takes a temporal value of a type.  Bytes after the fields that are known are left out. -/
def temporalReader (fieldType : FieldType) : Reader WireTime := do
  let length := (← Reader.byte).toNat
  let data ← Reader.bytes length
  match (if fieldType = .time then timeFields length else dateFields fieldType length).run data with
  | .ok t => return t
  | .error e => Attempt.fail e

/-- Takes a cell that is present and gives it to a binding. -/
def cellReader (c : Column) (b : Binding) : Reader Binding := do
  match c.fieldType with
  | .null => return b.setNull
  | .bit =>
    let bits := (← Reader.lenEncBytes).getD []
    return b.set .bit (some [if bits.any (· != 0) then 1 else 0]) 1 true
  | fieldType =>
    match fieldType.fixedWidth with
    | some width => return b.set fieldType (some (← Reader.bytes width)) width c.isUnsigned
    | none =>
      if fieldType.isTemporal then return b.setTime fieldType (← temporalReader fieldType)
      else
        let data := (← Reader.lenEncBytes).getD []
        return (b.set fieldType (some data) data.length c.isUnsigned).setIsNull false

/-- A binding for a cell that is missing. -/
def missingCell (c : Column) (b : Binding) : Binding :=
  (b.set c.fieldType none 0 c.isUnsigned).setIsNull true

/-- Decodes the cells from number `index` on into their bindings.  The result holds all bindings,
those that a failure kept from being set unchanged. -/
def decodeCells (bitmap : Bytes) : Nat → List Column → List Binding → Bytes →
    Except Error Unit × List Binding
  | index, c :: cs, b :: bs, data =>
    if testBit bitmap (index + 2) then
      let r := decodeCells bitmap (index + 1) cs bs data
      (r.1, missingCell c b :: r.2)
    else
      match cellReader c b data with
      | (.ok b', rest) =>
        let r := decodeCells bitmap (index + 1) cs bs rest
        (r.1, b' :: r.2)
      | (.error e, _) => (.error e, b :: bs)
  | _, _, bs, _ => (.ok (), bs)

/-- Takes what stands before the cells of a row: the bitmap of missing cells. -/
def rowHeader (columns : Nat) : Reader Bytes := do
  if (← Reader.byte) ≠ 0 then Attempt.fail (.protocol .rowHeader)
  else Reader.bytes ((columns + 9) / 8)

/-- Decodes a row into bindings. -/
def decodeRow (packet : Bytes) (columns : List Column) (bindings : List Binding) :
    Except Error Unit × List Binding :=
  if bindings.length ≠ columns.length then (.error (.protocol .bindCount), bindings)
  else
    match rowHeader columns.length packet with
    | (.ok bitmap, data) => decodeCells bitmap 0 columns bindings data
    | (.error e, _) => (.error e, bindings)

end MariaClient.Wire
