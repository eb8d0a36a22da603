import MariaClient.Decimal
import MariaClient.FieldType
import MariaClient.Temporal.DateTime
import MariaClient.Wire.Reader

/-!
# Bindings

A binding holds one parameter of a statement or one cell of a binary row: its type, and its value
as a scalar, as a temporal value or as a run of bytes.  Which of the three counts follows from
the type.  A list of bindings has a fixed length, and setting one leaves the others alone.
-/

namespace MariaClient

open Temporal Wire

/-- The value of a parameter or of a cell. -/
structure Binding where
  fieldType : FieldType := .null
  unsigned : Bool := false
  scalar : Nat := 0
  time : WireTime := {}
  buffer : Option Bytes := none
  length : Nat := 0
  isNull : Bool := true
  truncated : Bool := false
  deriving DecidableEq, Repr

namespace Binding

/-- The part of a binding that holds its value. -/
inductive Storage
  | scalar (bits : Nat)
  | time (t : WireTime)
  | bytes (bs : Bytes)
  | empty
  deriving DecidableEq, Repr

/-- The length that temporal values report. -/
def temporalLength : Nat := 16

/-- The first `length` bytes of the data, filled up with zero bytes. -/
def fill (length : Nat) (data : Bytes) : Bytes :=
  data.take length ++ List.replicate (length - data.length) 0

/-- Gives a binding a type and a value.  Types of a fixed width take the value as a scalar.
Temporal types take none; `setTime` gives it.  All other types keep exactly `length` bytes.
Bytes past the width or the length are cut off, which marks the binding as truncated. -/
def set (b : Binding) (fieldType : FieldType) (data : Option Bytes) (length : Nat)
    (unsigned : Bool) : Binding :=
  let isNull := fieldType == .null
  match fieldType.fixedWidth with
  | some width =>
    { b with
      fieldType, unsigned, isNull
      scalar := ofLE ((data.getD []).take width)
      buffer := none
      length := width
      truncated := decide (width < (data.getD []).length) }
  | none =>
    if fieldType.isTemporal then
      { fieldType, unsigned, isNull, length := temporalLength }
    else if length = 0 then
      { b with
        fieldType, unsigned, isNull, length
        scalar := 0
        buffer := none
        truncated := false }
    else
      { b with
        fieldType, unsigned, isNull, length
        scalar := 0
        buffer := some (fill length (data.getD []))
        truncated := decide (length < (data.getD []).length) }

/-- Makes a binding a value of no type. -/
def setNull (b : Binding) : Binding :=
  b.set .null none 0 false

/-- The number of bytes in which an integer is written as a given type. -/
def integerWidth (fieldType : FieldType) : Nat :=
  fieldType.fixedWidth.getD 8

/-- Gives a binding an integer with a sign. -/
def setSigned (b : Binding) (fieldType : FieldType) (n : Int) : Binding :=
  let width := integerWidth fieldType
  b.set fieldType (some (toLE width (lowBits 64 n))) width false

/-- Gives a binding an integer without a sign. -/
def setUnsigned (b : Binding) (fieldType : FieldType) (n : Nat) : Binding :=
  let width := integerWidth fieldType
  b.set fieldType (some (toLE width n)) width true

/-- Gives a binding a number of the single format. -/
def setFloat (b : Binding) (bits : Nat) : Binding :=
  b.set .float (some (toLE 4 bits)) 4 false

/-- Gives a binding a number of the double format. -/
def setDouble (b : Binding) (bits : Nat) : Binding :=
  b.set .double (some (toLE 8 bits)) 8 false

/-- Gives a binding some bytes.  No bytes are a value too. -/
def setBytes (b : Binding) (fieldType : FieldType) (data : Bytes) : Binding :=
  { b.set fieldType (some data) data.length false with isNull := false }

/-- Gives a binding a temporal value. -/
def setTime (b : Binding) (fieldType : FieldType) (time : WireTime) : Binding :=
  { b.set fieldType none 0 false with time }

/-- Marks the value as missing or present and keeps the type. -/
def setIsNull (b : Binding) (isNull : Bool) : Binding :=
  { b with isNull }

/-! ## Looking at a binding -/

/-- The part that holds the value. -/
def storage (b : Binding) : Storage :=
  if b.fieldType.fixedWidth.isSome && !b.isNull then .scalar b.scalar
  else if b.fieldType.isTemporal then .time b.time
  else match b.buffer with
    | some bs => .bytes bs
    | none => .empty

/-- The scalar as an integer with a sign.  Integers with a sign that are shorter than 64 bits
are extended. -/
def signed (b : Binding) : Int :=
  if !b.unsigned && (b.length == 1 || b.length == 2 || b.length == 4) then
    signExtend (8 * b.length) b.scalar
  else signExtend 64 b.scalar

/-- The scalar as an integer of 64 bits without a sign. -/
def toUnsigned (b : Binding) : Nat :=
  if b.unsigned then b.scalar else lowBits 64 b.signed

/-- The scalar as the bits of a number of the single format. -/
def float (b : Binding) : Nat :=
  b.scalar % 2 ^ 32

/-- The scalar as the bits of a number of the double format. -/
def double (b : Binding) : Nat :=
  b.scalar

/-- The bytes of the value.  Scalars and missing values have none. -/
def bytes (b : Binding) : Bytes :=
  b.buffer.getD []

/-- The bytes of the scalar, as many as the length says but at most eight. -/
def scalarBytes (b : Binding) : Bytes :=
  toLE (min b.length 8) b.scalar

end Binding

/-! ## Lists of bindings -/

namespace Bindings

/-- So many bindings without values. -/
def fresh (count : Nat) : List Binding :=
  List.replicate count {}

/-- The binding at an index. -/
def get (bs : List Binding) (index : Nat) : Except Error Binding :=
  match bs[index]? with
  | some b => .ok b
  | none => .error (.outOfRange index bs.length)

/-- Changes the binding at an index. -/
def modify (bs : List Binding) (index : Nat) (f : Binding → Binding) :
    Except Error (List Binding) :=
  if index < bs.length then .ok (bs.modify index f) else .error (.outOfRange index bs.length)

end Bindings

/-! ## Typed values -/

/-- A value of a caller that can be given to a parameter. -/
inductive Param
  | signed (width : IntWidth) (n : Int)
  | unsigned (width : IntWidth) (n : Nat)
  | boolean (b : Bool)
  | float (bits : Nat)
  | double (bits : Nat)
  | text (s : String)
  | blob (bs : Bytes)
  | time (t : TimeOfDay)
  | dateTime (d : DateTime)
  | date (d : DateTime)
  | decimal (d : Decimal)
  | null
  deriving DecidableEq, Repr

namespace Param

/-- The field type of integers of a width. -/
def integerType : IntWidth → FieldType
  | .w8 => .tiny
  | .w16 => .short
  | .w32 => .long
  | .w64 => .longLong

/-- Gives a binding a value. -/
def bind (b : Binding) : Param → Binding
  | signed w n => b.setSigned (integerType w) n
  | unsigned w n => b.setUnsigned (integerType w) n
  | boolean v => b.setSigned .tiny (if v then 1 else 0)
  | float bits => b.setFloat bits
  | double bits => b.setDouble bits
  | text s => b.setBytes .string (Text.encode s)
  | blob bs => b.setBytes .blob bs
  | time t => b.setTime .time t.toWire
  | dateTime d => b.setTime .dateTime { d.toWire with kind := .dateTime }
  | date d => b.setTime .date { d.date.toWire with kind := .date }
  | decimal d => b.setBytes .newDecimal (Text.encode d.text)
  | null => b.setNull

end Param

end MariaClient
