import MariaClient.ValueType

/-!
# Field types

The type codes that the protocol gives to columns and parameters, with the layout of their
values and the value type in which they are read.
-/

namespace MariaClient

/-- The type of a column or a parameter in the protocol. -/
inductive FieldType
  | decimal
  | tiny
  | short
  | long
  | float
  | double
  | null
  | timestamp
  | longLong
  | int24
  | date
  | time
  | dateTime
  | year
  | newDate
  | varChar
  | bit
  | json
  | newDecimal
  | enum
  | set
  | tinyBlob
  | mediumBlob
  | longBlob
  | blob
  | varString
  | string
  | geometry
  deriving DecidableEq, Repr

namespace FieldType

/-- Every field type. -/
def all : List FieldType :=
  [decimal, tiny, short, long, float, double, null, timestamp, longLong, int24, date, time,
    dateTime, year, newDate, varChar, bit, json, newDecimal, enum, set, tinyBlob, mediumBlob,
    longBlob, blob, varString, string, geometry]

theorem mem_all (t : FieldType) : t ∈ all := by
  cases t <;> decide

/-- The code of a type in packets. -/
def code : FieldType → UInt8
  | decimal => 0
  | tiny => 1
  | short => 2
  | long => 3
  | float => 4
  | double => 5
  | null => 6
  | timestamp => 7
  | longLong => 8
  | int24 => 9
  | date => 10
  | time => 11
  | dateTime => 12
  | year => 13
  | newDate => 14
  | varChar => 15
  | bit => 16
  | json => 245
  | newDecimal => 246
  | enum => 247
  | set => 248
  | tinyBlob => 249
  | mediumBlob => 250
  | longBlob => 251
  | blob => 252
  | varString => 253
  | string => 254
  | geometry => 255

/-- The type with a given code.  A code that no type has is read as a string. -/
def ofCode (n : UInt8) : FieldType :=
  (all.find? fun t ↦ t.code == n).getD string

@[simp] theorem ofCode_code (t : FieldType) : ofCode t.code = t := by
  cases t <;> rfl

/-- The name of a type. -/
def name : FieldType → String
  | decimal => "Decimal"
  | tiny => "Tiny"
  | short => "Short"
  | long => "Long"
  | float => "Float"
  | double => "Double"
  | null => "Null"
  | timestamp => "Timestamp"
  | longLong => "LongLong"
  | int24 => "Int24"
  | date => "Date"
  | time => "Time"
  | dateTime => "DateTime"
  | year => "Year"
  | newDate => "NewDate"
  | varChar => "VarChar"
  | bit => "Bit"
  | json => "Json"
  | newDecimal => "NewDecimal"
  | enum => "Enum"
  | set => "Set"
  | tinyBlob => "TinyBlob"
  | mediumBlob => "MediumBlob"
  | longBlob => "LongBlob"
  | blob => "Blob"
  | varString => "VarString"
  | string => "String"
  | geometry => "Geometry"

/-- The type with a given name. -/
def ofName? (s : String) : Option FieldType :=
  all.find? fun t ↦ t.name == s

/-- The value type of a column of this type that is not flagged unsigned. -/
def valueType : FieldType → ValueType
  | null => .null
  | bit => .boolean
  | float => .float32
  | double => .double64
  | decimal | newDecimal => .decimal
  | date | newDate => .date
  | time => .time
  | timestamp | dateTime => .dateTime
  | tiny => .integer true .w8
  | year | short => .integer true .w16
  | int24 | long => .integer true .w32
  | longLong => .integer true .w64
  | tinyBlob | mediumBlob | longBlob | blob => .blob
  | enum => .enumeration
  | varChar | varString | string | json | set | geometry => .string

/-- Types whose binary values are calendar dates or times. -/
def isTemporal : FieldType → Bool
  | date | newDate | time | dateTime | timestamp => true
  | _ => false

/-- The number of bytes of a value, for the types whose values all have the same number. -/
def fixedWidth : FieldType → Option Nat
  | null | tiny | bit => some 1
  | year | short => some 2
  | int24 | long | float => some 4
  | longLong | double => some 8
  | _ => none

/-- No type is both of a fixed width and temporal. -/
theorem fixedWidth_of_isTemporal {t : FieldType} (h : t.isTemporal = true) :
    t.fixedWidth = none := by
  cases t <;> first | rfl | cases h

end FieldType

/-- How much a transaction sees of the changes of others. -/
inductive IsolationLevel
  | repeatableRead
  | readCommitted
  | readUncommitted
  | serializable
  deriving DecidableEq, Repr

namespace IsolationLevel

/-- The level of a transaction that asks for none. -/
def default : IsolationLevel := repeatableRead

/-- Every level. -/
def all : List IsolationLevel :=
  [repeatableRead, readCommitted, readUncommitted, serializable]

/-- The name of a level. -/
def name : IsolationLevel → String
  | repeatableRead => "RepeatableRead"
  | readCommitted => "ReadCommitted"
  | readUncommitted => "ReadUncommitted"
  | serializable => "Serializable"

/-- The level with a given name. -/
def ofName? (s : String) : Option IsolationLevel :=
  all.find? fun l ↦ l.name == s

/-- The statement that sets the level of the next transaction. -/
def sql : IsolationLevel → String
  | repeatableRead => "SET TRANSACTION ISOLATION LEVEL REPEATABLE READ;"
  | readCommitted => "SET TRANSACTION ISOLATION LEVEL READ COMMITTED;"
  | readUncommitted => "SET TRANSACTION ISOLATION LEVEL READ UNCOMMITTED;"
  | serializable => "SET TRANSACTION ISOLATION LEVEL SERIALIZABLE;"

end IsolationLevel

end MariaClient
