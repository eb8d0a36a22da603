import MariaClient.FieldType
import MariaClient.Wire.Packet

/-!
# Columns

The definition of a column of a result, and the type in which its values are read.
-/

namespace MariaClient.Wire

/-- The flag of a column whose integers have no sign. -/
def unsignedFlag : Nat := 0x0020

/-- The definition of a column. -/
structure Column where
  table : String := ""
  name : String
  charset : Nat := 63
  length : Nat := 0
  fieldType : FieldType
  flags : Nat := 0
  decimals : Nat := 0
  deriving DecidableEq, Repr

namespace Column

/-- The column with integers that have no sign. -/
def unsigned (c : Column) : Column :=
  { c with flags := c.flags ||| unsignedFlag }

/-- The integers of the column have no sign. -/
def isUnsigned (c : Column) : Bool :=
  hasFlag c.flags unsignedFlag

/-- The type in which the values of the column are read. -/
def valueType (c : Column) : ValueType :=
  match c.fieldType.valueType with
  | .integer s w => .integer (s && !c.isUnsigned) w
  | t => t

/-- Takes the definition of a column. -/
def reader : Reader Column := do
  let _catalog ← Reader.lenEncText
  let _schema ← Reader.lenEncText
  let table ← Reader.lenEncText
  let _sourceTable ← Reader.lenEncText
  let name ← Reader.lenEncText
  let _sourceName ← Reader.lenEncText
  let _fixedLength ← Reader.lenEncInt
  let charset ← Reader.le 2
  let length ← Reader.le 4
  let fieldType := FieldType.ofCode (← Reader.byte)
  let flags ← Reader.le 2
  let decimals := (← Reader.byte).toNat
  return { table, name, charset, length, fieldType, flags, decimals }

/-- Reads the definition of a column. -/
def parse (packet : Bytes) : Except Error Column :=
  reader.run packet

end Column

end MariaClient.Wire
