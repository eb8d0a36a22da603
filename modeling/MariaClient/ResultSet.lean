import MariaClient.Floating.Text
import MariaClient.Text.Split
import MariaClient.Value
import MariaClient.Wire.Row

/-!
# Result sets

The rows of a query or of a prepared statement, with a cursor on one of them.  Rows of a query
are texts.  Rows of a prepared statement stay packets until the cursor comes to them and are then
decoded into bindings.  Every reader first finds its column, then checks that the column's type
may be read so, and only then looks at the row.
-/

namespace MariaClient

open Temporal Wire Text

/-- The rows of a result. -/
inductive Rows
  | text (rows : List (List (Option Bytes)))
  | binary (packets : List Bytes) (bindings : List Binding)
  deriving DecidableEq, Repr

/-- The number of rows. -/
def Rows.count : Rows → Nat
  | text rows => rows.length
  | binary packets _ => packets.length

/-- A cell of the current row. -/
inductive Cell
  | null
  | text (bs : Bytes)
  | bound (b : Binding)
  deriving DecidableEq, Repr

/-- The bytes of a cell.  A missing one has none. -/
def Cell.bytes : Cell → Bytes
  | null => []
  | text bs => bs
  | bound b => b.bytes

/-- A column as a caller names it. -/
inductive ColumnRef
  | index (n : Nat)
  | name (s : String)
  deriving DecidableEq, Repr

/-- The rows of a result with a cursor. -/
structure ResultSet where
  columns : List Column := []
  rows : Rows := .text []
  position : Option Nat := none
  deriving DecidableEq, Repr

namespace ResultSet

/-- A result without columns and rows. -/
def empty : ResultSet := {}

/-- The rows of a query. -/
def ofText (columns : List Column) (rows : List (List (Option Bytes))) : ResultSet :=
  { columns, rows := .text rows }

/-- The rows of a prepared statement. -/
def ofBinary (columns : List Column) (packets : List Bytes) : ResultSet :=
  { columns, rows := .binary packets (Bindings.fresh columns.length) }

/-- The number of rows. -/
def rowCount (rs : ResultSet) : Nat :=
  rs.rows.count

/-! ## The cursor -/

/-- The number of the current row.  There is none before the first row and after the last. -/
def rowIndex (rs : ResultSet) : Option Nat :=
  rs.position.filter (· < rs.rowCount)

/-- Puts the cursor on a row.  If the row cannot be decoded the cursor stays, though the bindings
have taken up the cells before the broken one. -/
def load (rs : ResultSet) (row : Nat) : Except Error Unit × ResultSet :=
  match rs.rows with
  | .text _ => (.ok (), { rs with position := some row })
  | .binary packets bindings =>
    match decodeRow (packets.getD row []) rs.columns bindings with
    | (.ok (), bindings) =>
      (.ok (), { rs with rows := .binary packets bindings, position := some row })
    | (.error e, bindings) => (.error e, { rs with rows := .binary packets bindings })

/-- Goes to the next row and tells whether there is one. -/
def next (rs : ResultSet) : Except Error Bool × ResultSet :=
  let row := match rs.position with
    | none => 0
    | some p => p + 1
  if row < rs.rowCount then
    let (outcome, rs) := rs.load row
    (outcome.map fun _ ↦ true, rs)
  else (.ok false, { rs with position := some rs.rowCount })

/-- Goes to the row of a number. -/
def seek (rs : ResultSet) (row : Nat) : Except Error Bool × ResultSet :=
  if row < rs.rowCount then
    let (outcome, rs) := rs.load row
    (outcome.map fun _ ↦ true, rs)
  else (.error (.outOfRange row rs.rowCount), rs)

/-! ## Columns -/

/-- The last index of a column of the given name. -/
def indexOfName? (columns : List Column) (name : String) : Option Nat :=
  ((columns.zipIdx.filter fun c ↦ c.1.name == name).getLast?).map (·.2)

/-- The column that a caller names, with its number. -/
def column (rs : ResultSet) (ref : ColumnRef) : Except Error (Nat × Column) :=
  let found := match ref with
    | .index n => some n
    | .name s => indexOfName? rs.columns s
  match found, ref with
  | some n, _ =>
    match rs.columns[n]? with
    | some c => .ok (n, c)
    | none => .error (.outOfRange n rs.columns.length)
  | none, .name s => .error (.unknownColumn s)
  | none, .index n => .error (.outOfRange n rs.columns.length)

/-- The type in which a column is read. -/
def columnType (rs : ResultSet) (ref : ColumnRef) : Except Error ValueType :=
  (rs.column ref).map (·.2.valueType)

/-- The name of a column. -/
def columnName (rs : ResultSet) (n : Nat) : Except Error String :=
  (rs.column (.index n)).map (·.2.name)

/-- The number of the column of a name. -/
def columnIndex (rs : ResultSet) (name : String) : Except Error Nat :=
  (rs.column (.name name)).map (·.1)

/-! ## Cells -/

/-- The cell of a column in the current row. -/
def cell (rs : ResultSet) (n : Nat) : Except Error Cell :=
  match rs.rowIndex with
  | none => .error .noRow
  | some row =>
    match rs.rows with
    | .text rows =>
      match (rows.getD row []).getD n none with
      | some bs => .ok (.text bs)
      | none => .ok .null
    | .binary _ bindings => do
      let b ← Bindings.get bindings n
      return if b.isNull then .null else .bound b

/-- Refuses a type in which a column cannot be read. -/
def checkType (requested actual : ValueType) : Except Error Unit :=
  if requested.compatible actual then .ok () else .error (.typeMismatch requested actual)

/-- The cell of a column that is read in the given type, with the column and its number. -/
def typed (rs : ResultSet) (ref : ColumnRef) (requested : ValueType) :
    Except Error (Nat × Column × Cell) := do
  let (n, c) ← rs.column ref
  checkType requested c.valueType
  return (n, c, ← rs.cell n)

/-- The text of some bytes, read by `parse?` without the blanks around it. -/
def parseText {α : Type} (what : TextKind) (parse? : List Char → Option α) (bs : Bytes) :
    Except Error α :=
  let s := decode bs
  match parse? (trim s.toList) with
  | some a => .ok a
  | none => .error (.format what s)

/-- The cell is missing. -/
def isNull (rs : ResultSet) (ref : ColumnRef) : Except Error Bool := do
  let (n, _) ← rs.column ref
  return (← rs.cell n) == .null

/-- The integer in a cell, of any width. -/
def integer (rs : ResultSet) (ref : ColumnRef) (requested : ValueType) : Except Error Int := do
  let (n, _, cell) ← rs.typed ref requested
  match cell with
  | .null => throw (.unexpectedNull n)
  | .text bs => parseText .anyInteger (signedWord? 128) bs
  | .bound b => return if b.unsigned then (b.toUnsigned : Int) else b.signed

/-- Whether an integer is one of the given width with or without a sign. -/
def fits (signed : Bool) (width : IntWidth) (n : Int) : Bool :=
  if signed then fitsSigned width.bits n else fitsUnsigned width.bits n

/-- The integer in a cell.  One that does not fit the width is refused. -/
def getInteger (rs : ResultSet) (ref : ColumnRef) (signed : Bool) (width : IntWidth) :
    Except Error Int := do
  let n ← rs.integer ref (.integer signed width)
  if fits signed width n then return n
  else throw (.format (.integer signed width) (ofInt n))

/-- The bytes of a cell. -/
def getBytes (rs : ResultSet) (ref : ColumnRef) (requested : ValueType) : Except Error Bytes := do
  let (_, _, cell) ← rs.typed ref requested
  return cell.bytes

/-- The bytes of a large cell. -/
def getBlob (rs : ResultSet) (ref : ColumnRef) : Except Error Bytes :=
  rs.getBytes ref .blob

/-- The bytes of a cell. -/
def getData (rs : ResultSet) (ref : ColumnRef) : Except Error Bytes :=
  rs.getBytes ref .data

/-- The text of a cell. -/
def getString (rs : ResultSet) (ref : ColumnRef) : Except Error String := do
  return decode (← rs.getBytes ref .string)

/-- The decimal in a cell. -/
def getDecimal (rs : ResultSet) (ref : ColumnRef) : Except Error Decimal := do
  let (n, _, cell) ← rs.typed ref .decimal
  match cell with
  | .null => throw (.unexpectedNull n)
  | cell => Decimal.parse (String.ofList (trim (decode cell.bytes).toList))

/-- A server writes up to six digits of a second's fraction.  Exactly three are kept, with zeros
behind a shorter fraction, so that they count milliseconds. -/
def serverFraction (s : String) : String :=
  match splitLast '.' s.toList with
  | some (head, fraction) =>
    if head.contains ':' ∧ fraction ≠ [] ∧ fraction.all Char.isDigit then
      String.ofList
        (head ++ '.' :: fraction.take 3 ++ List.replicate (3 - fraction.length) '0')
    else s
  | none => s

/-- The date and time in a cell of a type that has a date. -/
def temporal (rs : ResultSet) (ref : ColumnRef) (requested : ValueType) :
    Except Error DateTime := do
  let (n, _, cell) ← rs.typed ref requested
  match cell with
  | .null => throw (.unexpectedNull n)
  | .bound b => DateTime.ofWire b.time
  | .text bs => DateTime.parse (serverFraction (decode bs))

/-- The date in a cell. -/
def getDate (rs : ResultSet) (ref : ColumnRef) : Except Error DateTime := do
  return (← rs.temporal ref .date).date

/-- The date and time in a cell. -/
def getDateTime (rs : ResultSet) (ref : ColumnRef) : Except Error DateTime :=
  rs.temporal ref .dateTime

/-- The time of day in a cell. -/
def getTime (rs : ResultSet) (ref : ColumnRef) : Except Error TimeOfDay := do
  let (n, _, cell) ← rs.typed ref .time
  match cell with
  | .null => throw (.unexpectedNull n)
  | .bound b => TimeOfDay.ofWire b.time
  | .text bs => TimeOfDay.parse (serverFraction (decode bs))

/-- The truth value in a cell: whether its number, or one of its bits, is not zero. -/
def getBoolean (rs : ResultSet) (ref : ColumnRef) : Except Error Bool := do
  let (n, c, cell) ← rs.typed ref .boolean
  match cell with
  | .null => throw (.unexpectedNull n)
  | .bound b => return b.toUnsigned != 0
  | .text bs =>
    if c.fieldType = .bit then return bs.any (· != 0)
    else return (← parseText .boolean (signedWord? 64) bs) != 0

/-- The bits of the number of the single format in a cell. -/
def getFloat (rs : ResultSet) (ref : ColumnRef) : Except Error Nat := do
  let (n, _, cell) ← rs.typed ref .float32
  match cell with
  | .null => throw (.unexpectedNull n)
  | .bound b => return b.float
  | .text bs => parseText .float (Floating.parse? .single) bs

/-- The bits of the number of the double format in a cell. -/
def getDouble (rs : ResultSet) (ref : ColumnRef) : Except Error Nat := do
  let (n, _, cell) ← rs.typed ref .double64
  match cell with
  | .null => throw (.unexpectedNull n)
  | .bound b => return b.double
  | .text bs => parseText .double (Floating.parse? .double) bs

/-- The value that was read, or the text of the cell if reading failed. -/
def orText {α : Type} (value : α → Value) (cell : Cell) : Except Error α → Value
  | .ok a => value a
  | .error _ => .string (decode cell.bytes)

/-- The value of a cell in the type of its column.  Dates, times and decimals that cannot be read
are given as texts. -/
def getValue (rs : ResultSet) (ref : ColumnRef) : Except Error Value := do
  let (n, c) ← rs.column ref
  let cell ← rs.cell n
  if cell = .null then return .null
  match c.valueType with
  | .null | .blob | .data => return .bytes cell.bytes
  | .string | .enumeration => return .string (decode cell.bytes)
  | .boolean => return .bool (← rs.getBoolean (.index n))
  | .float32 => return .float (← rs.getFloat (.index n))
  | .double64 => return .double (← rs.getDouble (.index n))
  | .integer signed width =>
    let k ← rs.integer (.index n) (.integer signed width)
    return if signed then .signed (Int.bmod k (2 ^ 64)) else .unsigned (lowBits 64 k)
  | .decimal => return orText .decimal cell (rs.getDecimal (.index n))
  | .date => return orText .date cell (rs.getDate (.index n))
  | .dateTime => return orText .dateTime cell (rs.getDateTime (.index n))
  | .time => return orText .time cell (rs.getTime (.index n))

/-- The values of the current row. -/
def rowValues (rs : ResultSet) : Except Error (List Value) :=
  (List.range rs.columns.length).mapM fun n ↦ rs.getValue (.index n)

/-- The values of the rows that follow, at most `fuel` of them. -/
def valuesUpTo : Nat → ResultSet → Except Error (List (List Value))
  | 0, _ => .ok []
  | fuel + 1, rs =>
    match rs.next with
    | (.error e, _) => .error e
    | (.ok false, _) => .ok []
    | (.ok true, rs) => do
      let row ← rs.rowValues
      return row :: (← valuesUpTo fuel rs)

/-- The values of all rows that follow. -/
def values (rs : ResultSet) : Except Error (List (List Value)) :=
  valuesUpTo (rs.rowCount + 1) rs

end ResultSet

end MariaClient
