import MariaClient.ResultSet

/-!
# Accessors

The ways to read a column of the current row, as data, and what they give.
-/

namespace MariaClient

open Temporal Wire

/-- A way to read a column. -/
inductive Accessor
  | isNull
  | columnType
  | blob
  | data
  | string
  | decimal
  | date
  | dateTime
  | time
  | boolean
  | integer (signed : Bool) (width : IntWidth)
  | float
  | double
  | value
  deriving DecidableEq, Repr

/-- What an accessor gives. -/
inductive Reading
  | flag (b : Bool)
  | type (t : ValueType)
  | bytes (bs : Bytes)
  | text (s : String)
  | decimal (d : Decimal)
  | dateTime (d : DateTime)
  | time (t : TimeOfDay)
  | integer (width : IntWidth) (n : Int)
  | float (bits : Nat)
  | double (bits : Nat)
  | value (v : Value)
  deriving DecidableEq, Repr

namespace Accessor

/-- Every accessor. -/
def all : List Accessor :=
  [isNull, columnType, blob, data, string, decimal, date, dateTime, time, boolean,
    integer false .w8, integer true .w8, integer false .w16, integer true .w16,
    integer false .w32, integer true .w32, integer false .w64, integer true .w64,
    float, double, value]

theorem mem_all (x : Accessor) : x ∈ all := by
  rcases x with _ | _ | _ | _ | _ | _ | _ | _ | _ | _ | ⟨s, w⟩ | _ | _ | _ <;>
    first | decide | (cases s <;> cases w <;> decide)

/-- The name of an accessor. -/
def name : Accessor → String
  | isNull => "null?"
  | columnType => "type"
  | blob => "blob"
  | data => "data"
  | string => "string"
  | decimal => "decimal"
  | date => "date"
  | dateTime => "datetime"
  | time => "time"
  | boolean => "boolean"
  | integer signed width => (if signed then "i" else "u") ++ Text.ofNat 0 width.bits
  | float => "float"
  | double => "double"
  | value => "value"

/-- The accessor with a given name. -/
def ofName? (s : String) : Option Accessor :=
  all.find? fun x ↦ x.name == s

end Accessor

namespace ResultSet

/-- Reads a column of the current row. -/
def read (rs : ResultSet) (ref : ColumnRef) : Accessor → Except Error Reading
  | .isNull => (rs.isNull ref).map .flag
  | .columnType => (rs.columnType ref).map .type
  | .blob => (rs.getBlob ref).map .bytes
  | .data => (rs.getData ref).map .bytes
  | .string => (rs.getString ref).map .text
  | .decimal => (rs.getDecimal ref).map .decimal
  | .date => (rs.getDate ref).map .dateTime
  | .dateTime => (rs.getDateTime ref).map .dateTime
  | .time => (rs.getTime ref).map .time
  | .boolean => (rs.getBoolean ref).map .flag
  | .integer signed width => (rs.getInteger ref signed width).map (.integer width)
  | .float => (rs.getFloat ref).map .float
  | .double => (rs.getDouble ref).map .double
  | .value => (rs.getValue ref).map .value

end ResultSet

end MariaClient
