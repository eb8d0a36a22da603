import MariaClient.Decimal
import MariaClient.Floating.Text
import MariaClient.Json
import MariaClient.Temporal.DateTime
import MariaClient.Wire.Bytes

/-!
# Values

A cell of a result in the type that its column has, with its text and its JSON document.
-/

namespace MariaClient

open Temporal Wire

/-- The value of a cell. -/
inductive Value
  | null
  | bool (b : Bool)
  | signed (n : Int)
  | unsigned (n : Nat)
  | float (bits : Nat)
  | double (bits : Nat)
  | decimal (d : Decimal)
  | date (d : DateTime)
  | dateTime (d : DateTime)
  | time (t : TimeOfDay)
  | string (s : String)
  | bytes (bs : Bytes)
  deriving DecidableEq, Repr

namespace Value

open Floating

/-- The value of a missing cell. -/
def isNull : Value → Bool
  | null => true
  | _ => false

/-- The name of the kind of a value. -/
def kind : Value → String
  | null => "Null"
  | bool _ => "Bool"
  | signed _ => "Signed"
  | unsigned _ => "Unsigned"
  | float _ => "Float"
  | double _ => "Double"
  | decimal _ => "Decimal"
  | date _ => "Date"
  | dateTime _ => "DateTime"
  | time _ => "Time"
  | string _ => "String"
  | bytes _ => "Bytes"

/-- In texts, numbers have no exponent and whole numbers no point. -/
def plainStyle : Style :=
  { positional := none, wholePoint := false }

/-- In JSON, whole numbers end in `.0`, and powers of ten beyond some bounds are written. -/
def jsonStyle (f : Format) : Style :=
  { positional := if f = .single then some (-6, 12) else some (-5, 15)
    wholePoint := true }

/-- The text of a floating point number. -/
def floatText (f : Format) (bits : Nat) : List Char :=
  match read f bits with
  | .notANumber => ['N', 'a', 'N']
  | .infinite negative => (if negative then ['-'] else []) ++ ['i', 'n', 'f']
  | .finite negative m q => plainStyle.finite f negative m q

/-- The JSON document of a floating point number.  There is none for infinities. -/
def floatJson (f : Format) (bits : Nat) : Json :=
  match read f bits with
  | .finite negative m q => .number ((jsonStyle f).finite f negative m q)
  | _ => .null

/-- The text of a value. -/
def text : Value → String
  | null => "NULL"
  | bool b => if b then "true" else "false"
  | signed n => Text.ofInt n
  | unsigned n => Text.ofNat 0 n
  | float bits => String.ofList (floatText .single bits)
  | double bits => String.ofList (floatText .double bits)
  | decimal d => d.text
  | date d => d.dateText
  | dateTime d => d.text true
  | time t => t.text true
  | string s => s
  | bytes bs => Text.decode bs

/-- The JSON document of a value, with numbers of the single format written by the given
function. -/
def toJsonWith (single : Nat → Json) : Value → Json
  | null => .null
  | bool b => .bool b
  | signed n => .number (Text.signedDigits n)
  | unsigned n => .number (Text.digits n)
  | float bits => single bits
  | double bits => floatJson .double bits
  | decimal d => .string d.text
  | date d => .string (d.text true)
  | dateTime d => .string (d.text true)
  | time t => .string (t.text true)
  | string s => .string s
  | bytes bs => .array (bs.map fun b ↦ .number (Text.digits b.toNat))

/-- The JSON document of a value on its own. -/
def toJson (v : Value) : Json :=
  v.toJsonWith (floatJson .single)

/-- The JSON document of a value inside a document whose numbers all have the double format. -/
def toWideJson (v : Value) : Json :=
  v.toJsonWith fun bits ↦ floatJson .double (convert .single .double bits)

end Value

end MariaClient
