/-!
# Value types

The types in which a caller reads columns, and which of them may stand in for one another.
-/

namespace MariaClient

/-- The widths of integers. -/
inductive IntWidth
  | w8 | w16 | w32 | w64
  deriving DecidableEq, Repr

/-- The number of bits of a width. -/
def IntWidth.bits : IntWidth → Nat
  | .w8 => 8
  | .w16 => 16
  | .w32 => 32
  | .w64 => 64

/-- The type in which a caller reads a column. -/
inductive ValueType
  | null
  | blob
  | data
  | date
  | dateTime
  | time
  | string
  | boolean
  | decimal
  | integer (signed : Bool) (width : IntWidth)
  | float32
  | double64
  | enumeration
  deriving DecidableEq, Repr

namespace ValueType

/-- Every value type. -/
def all : List ValueType :=
  [.null, .blob, .data, .date, .dateTime, .time, .string, .boolean, .decimal,
    .integer false .w8, .integer true .w8, .integer false .w16, .integer true .w16,
    .integer false .w32, .integer true .w32, .integer false .w64, .integer true .w64,
    .float32, .double64, .enumeration]

theorem mem_all (t : ValueType) : t ∈ all := by
  rcases t with _ | _ | _ | _ | _ | _ | _ | _ | _ | ⟨s, w⟩ | _ | _ | _ <;>
    first | decide | (cases s <;> cases w <;> decide)

/-- The name of a type in messages. -/
def name : ValueType → String
  | null => "null"
  | blob => "blob"
  | data => "data"
  | date => "date"
  | dateTime => "date_time"
  | time => "time"
  | string => "string"
  | boolean => "boolean"
  | decimal => "decimal"
  | integer true .w8 => "signed8"
  | integer true .w16 => "signed16"
  | integer true .w32 => "signed32"
  | integer true .w64 => "signed64"
  | integer false .w8 => "unsigned8"
  | integer false .w16 => "unsigned16"
  | integer false .w32 => "unsigned32"
  | integer false .w64 => "unsigned64"
  | float32 => "float32"
  | double64 => "double64"
  | enumeration => "enumeration"

/-- The type with a given name. -/
def ofName? (s : String) : Option ValueType :=
  all.find? fun t ↦ t.name == s

/-- Types whose values are plain ranges of bytes. -/
def isByteRange : ValueType → Bool
  | null | blob | data | string => true
  | _ => false

/-- Whether a reader of type `requested` may read a column of type `actual`: the same type, a
boolean from a signed byte, any byte range from any other, and an integer from one of the same
width whatever its sign. -/
def compatible (requested actual : ValueType) : Bool :=
  requested == actual ||
    match requested, actual with
    | boolean, integer true .w8 => true
    | integer _ v, integer _ w => v == w
    | r, a => r.isByteRange && a.isByteRange

@[simp] theorem compatible_self (t : ValueType) : compatible t t = true := by
  simp [compatible]

end ValueType

end MariaClient
