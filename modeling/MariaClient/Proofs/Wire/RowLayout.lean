import MariaClient.Proofs.Wire.Cells
import MariaClient.Proofs.Wire.Short

/-!
# The layout of rows

What the cells of a row hold, how they are laid out behind the bitmap of the missing ones, and what
the bindings show after the row is decoded.  They show the cells of the row and nothing of what they
held before, and a row that breaks off anywhere is refused (`decodeRow_layout`).
-/

namespace MariaClient.Wire

open Temporal

/-! ## Cells -/

/-- A temporal value breaks off where the bytes are fewer than their number tells. -/
theorem short_temporal {fieldType : FieldType} {count : UInt8} {data : Bytes}
    (h : data.length = count.toNat) : Short (temporalReader fieldType) (count :: data) :=
  (short_byte count).bind (reads_byte count) ((short_bytes h).bind_left _)

/-- A date with a time in a cell.  The fields at its end may be left out. -/
inductive DateCell
  | nothing
  | date (year : UInt16) (month day : UInt8)
  | seconds (year : UInt16) (month day hour minute second : UInt8)
  | microseconds (year : UInt16) (month day hour minute second : UInt8) (microsecond : UInt32)
  deriving DecidableEq, Repr

namespace DateCell

/-- The bytes of the cell after their number. -/
def encode : DateCell → Bytes
  | nothing => [0]
  | date year month day => 4 :: (toLE 2 year.toNat ++ [month, day])
  | seconds year month day hour minute second =>
    7 :: (toLE 2 year.toNat ++ [month, day, hour, minute, second])
  | microseconds year month day hour minute second microsecond =>
    11 :: (toLE 2 year.toNat ++ [month, day, hour, minute, second] ++ toLE 4 microsecond.toNat)

/-- The value of the cell.  The fields that are left out are zero. -/
def value (kind : WireKind) : DateCell → WireTime
  | nothing => { kind }
  | date year month day =>
    { year := year.toNat, month := month.toNat, day := day.toNat, kind }
  | seconds year month day hour minute second =>
    { year := year.toNat
      month := month.toNat
      day := day.toNat
      hour := hour.toNat
      minute := minute.toNat
      second := second.toNat
      kind }
  | microseconds year month day hour minute second microsecond =>
    { year := year.toNat
      month := month.toNat
      day := day.toNat
      hour := hour.toNat
      minute := minute.toNat
      second := second.toNat
      microsecond := microsecond.toNat
      kind }

theorem dateBytes_toNat (year : Nat) (month day : UInt8) :
    dateBytes year month.toNat day.toNat = toLE 2 year ++ [month, day] := by
  rw [dateBytes, UInt8.ofNat_toNat, UInt8.ofNat_toNat]

theorem timeOfDayBytes_toNat (hour minute second : UInt8) :
    timeOfDayBytes hour.toNat minute.toNat second.toNat = [hour, minute, second] := by
  rw [timeOfDayBytes, UInt8.ofNat_toNat, UInt8.ofNat_toNat, UInt8.ofNat_toNat]

theorem reads_encode (d : DateCell) {fieldType : FieldType} (htype : fieldType ≠ .time) :
    Reads (temporalReader fieldType) d.encode (d.value (dateKind fieldType)) := by
  have hzero : 0 < 256 := Nat.succ_pos 255
  have hpos : 0 < 2 ^ 32 := Nat.two_pow_pos 32
  cases d with
  | nothing =>
    exact DateEncoding.nothing.reads htype (Nat.two_pow_pos 16) hzero hzero hzero hzero hzero hpos
  | date year month day =>
    rw [encode, ← dateBytes_toNat]
    exact DateEncoding.date.reads htype year.toNat_lt month.toNat_lt day.toNat_lt hzero hzero hzero
      hpos
  | seconds year month day hour minute second =>
    have h := @DateEncoding.seconds year.toNat month.toNat day.toNat hour.toNat minute.toNat
      second.toNat
    rw [dateBytes_toNat, timeOfDayBytes_toNat, List.append_assoc] at h
    exact h.reads htype year.toNat_lt month.toNat_lt day.toNat_lt hour.toNat_lt minute.toNat_lt
      second.toNat_lt hpos
  | microseconds year month day hour minute second microsecond =>
    have h := @DateEncoding.microseconds year.toNat month.toNat day.toNat hour.toNat minute.toNat
      second.toNat microsecond.toNat
    rw [dateBytes_toNat, timeOfDayBytes_toNat, ← List.append_assoc] at h
    exact h.reads htype year.toNat_lt month.toNat_lt day.toNat_lt hour.toNat_lt minute.toNat_lt
      second.toNat_lt microsecond.toNat_lt

theorem short_encode (d : DateCell) (fieldType : FieldType) :
    Short (temporalReader fieldType) d.encode := by
  cases d with
  | nothing => exact short_temporal rfl
  | date | seconds | microseconds => exact short_temporal (by simp)

end DateCell

/-- A length of time in a cell.  The fields at its end may be left out, and its hours may run past
a day. -/
inductive TimeCell
  | nothing
  | seconds (sign : UInt8) (days : UInt32) (hour minute second : UInt8)
  | microseconds (sign : UInt8) (days : UInt32) (hour minute second : UInt8)
    (microsecond : UInt32)
  deriving DecidableEq, Repr

namespace TimeCell

/-- The bytes of the cell after their number. -/
def encode : TimeCell → Bytes
  | nothing => [0]
  | seconds sign days hour minute second =>
    8 :: sign :: (toLE 4 days.toNat ++ [hour, minute, second])
  | microseconds sign days hour minute second microsecond =>
    12 :: sign :: (toLE 4 days.toNat ++ [hour, minute, second] ++ toLE 4 microsecond.toNat)

/-- All hours of the cell, those of its days among them. -/
def hours : TimeCell → Nat
  | nothing => 0
  | seconds _ days hour _ _ | microseconds _ days hour _ _ _ => days.toNat * 24 + hour.toNat

/-- The value of the cell.  The fields that are left out are zero. -/
def value : TimeCell → WireTime
  | nothing => { kind := .time }
  | seconds sign days hour minute second =>
    { hour := days.toNat * 24 + hour.toNat
      minute := minute.toNat
      second := second.toNat
      negative := sign != 0
      kind := .time }
  | microseconds sign days hour minute second microsecond =>
    { hour := days.toNat * 24 + hour.toNat
      minute := minute.toNat
      second := second.toNat
      microsecond := microsecond.toNat
      negative := sign != 0
      kind := .time }

theorem reads_encode (t : TimeCell) (h : t.hours < 2 ^ 32) :
    Reads (temporalReader .time) t.encode t.value := by
  cases t with
  | nothing => exact TimeEncoding.nothing.reads (by decide) (by decide) (by decide) (by decide)
  | seconds sign days hour minute second =>
    have hr : Reads (timeFields 8) (clockFields sign days.toNat hour minute second ++
        fractionBytes 12 8 0) _ :=
      reads_clockFields sign (Nat.le_refl 8) (fun _ ↦ rfl) days.toNat_lt h (Nat.two_pow_pos 32)
    rw [fractionBytes, if_neg (by decide), List.append_nil] at hr
    exact reads_temporal (by simp) hr
  | microseconds sign days hour minute second microsecond =>
    have hr : Reads (timeFields 12) (clockFields sign days.toNat hour minute second ++
        fractionBytes 12 12 microsecond.toNat) _ :=
      reads_clockFields sign (by decide) (absurd · (Nat.lt_irrefl 12)) days.toNat_lt h
        microsecond.toNat_lt
    exact reads_temporal (by simp) hr

theorem short_encode (t : TimeCell) : Short (temporalReader .time) t.encode := by
  cases t with
  | nothing => exact short_temporal rfl
  | seconds | microseconds => exact short_temporal (by simp)

end TimeCell

/-- A cell that is not missing. -/
inductive RowCell
  /-- The value of a type that has only one. -/
  | nothing
  /-- As many bytes as all values of the type have. -/
  | fixed (data : Bytes)
  /-- The bits of a value after the number of their bytes. -/
  | bits (data : Bytes)
  /-- Bytes after their number. -/
  | bytes (data : Bytes)
  | date (d : DateCell)
  | time (t : TimeCell)
  deriving DecidableEq, Repr

namespace RowCell

/-- The cell is of the kind that the column has. -/
def Fits (c : Column) : RowCell → Prop
  | nothing => c.fieldType = .null
  | fixed data =>
    c.fieldType.fixedWidth = some data.length ∧ c.fieldType ≠ .null ∧ c.fieldType ≠ .bit
  | bits data => c.fieldType = .bit ∧ data.length < 2 ^ 64
  | bytes data =>
    c.fieldType.fixedWidth = none ∧ c.fieldType.isTemporal = false ∧ data.length < 2 ^ 64
  | date _ => c.fieldType.isTemporal = true ∧ c.fieldType ≠ .time
  | time t => c.fieldType = .time ∧ t.hours < 2 ^ 32

/-- The bytes of the cell in a row. -/
def encode : RowCell → Bytes
  | nothing => []
  | fixed data => data
  | bits data | bytes data => lenEncBytes data
  | date d => d.encode
  | time t => t.encode

/-! ### What a binding shows -/

/-- The number that a binding holds for a cell. -/
def scalar : Option RowCell → Nat
  | some (fixed data) => ofLE data
  | some (bits data) => if data.any (· != 0) then 1 else 0
  | _ => 0

/-- The bytes that a binding holds for a cell. -/
def data : Option RowCell → Bytes
  | some (bytes data) => data
  | _ => []

/-- The part of a binding that holds a cell.  A missing temporal value is zero in all its fields,
and no bytes need no place. -/
def storage (c : Column) : Option RowCell → Binding.Storage
  | some (date d) => .time (d.value (dateKind c.fieldType))
  | some (time t) => .time t.value
  | some (fixed data) => .scalar (ofLE data)
  | some (bits data) => .scalar (if data.any (· != 0) then 1 else 0)
  | some (bytes data) => if data = [] then .empty else .bytes data
  | some nothing => .empty
  | none => if c.fieldType.isTemporal then .time {} else .empty

/-- Whether the integers of a binding have no sign. -/
def unsigned (c : Column) : Option RowCell → Bool
  | some (bits _) => true
  | some nothing | some (date _) | some (time _) => false
  | _ => c.isUnsigned

/-- A binding shows a cell of a column, or that it is missing.  What it shows follows from the
column and the cell alone.  The temporal part counts where the storage is that part. -/
structure Shows (c : Column) (cell : Option RowCell) (b : Binding) : Prop where
  fieldType : b.fieldType = c.fieldType
  integer {s : Bool} {w : IntWidth} (h : c.fieldType.valueType = .integer s w) :
    b.unsigned = c.isUnsigned
  unsigned : b.unsigned = RowCell.unsigned c cell
  isNull : b.isNull = (cell.isNone || c.fieldType == .null)
  storage : b.storage = RowCell.storage c cell
  scalar : b.scalar = RowCell.scalar cell
  bytes : b.bytes = RowCell.data cell
  length : b.length = c.fieldType.fixedWidth.getD
    (if c.fieldType.isTemporal then Binding.temporalLength else (RowCell.data cell).length)
  truncated : b.truncated = false

variable {c : Column} {cell : RowCell}

theorem isTemporal_of_fixedWidth {t : FieldType} {width : Nat} (h : t.fixedWidth = some width) :
    t.isTemporal = false := by
  cases ht : t.isTemporal with
  | false => rfl
  | true => rw [FieldType.fixedWidth_of_isTemporal ht] at h; cases h

theorem ne_null_of_fixedWidth {t : FieldType} (h : t.fixedWidth = none) : (t == .null) = false := by
  cases t <;> first | rfl | cases h

theorem not_integer_of_isTemporal {t : FieldType} (h : t.isTemporal = true) {s : Bool}
    {w : IntWidth} : t.valueType ≠ .integer s w := by
  cases t <;> first | exact absurd h (by decide) | nofun

/-- Where nothing is given, a binding keeps nothing that could be shown. -/
theorem shows_missing (c : Column) (b : Binding) : Shows c none (missingCell c b) := by
  rw [missingCell]
  cases hw : c.fieldType.fixedWidth with
  | some width =>
    have ht := isTemporal_of_fixedWidth hw
    rw [b.set_none_fixed hw]
    exact ⟨rfl, fun _ ↦ rfl, rfl, rfl,
      by simp [Binding.storage, Binding.setIsNull, storage, ht], rfl, rfl, by rw [hw]; rfl, rfl⟩
  | none =>
    cases ht : c.fieldType.isTemporal with
    | true =>
      rw [b.set_none_temporal ht]
      exact ⟨rfl, fun _ ↦ rfl, rfl, rfl,
        by simp [Binding.storage, Binding.setIsNull, storage, hw, ht], rfl, rfl,
        by rw [hw, ht]; rfl, rfl⟩
    | false =>
      rw [b.set_none_bytes hw ht]
      exact ⟨rfl, fun _ ↦ rfl, rfl, rfl,
        by simp [Binding.storage, Binding.setIsNull, storage, ht], rfl, rfl,
        by rw [hw, ht]; rfl, rfl⟩

theorem cellReader_null (b : Binding) (h : c.fieldType = .null) :
    cellReader c b = pure b.setNull := by
  rw [cellReader, h]

theorem cellReader_bit (b : Binding) (h : c.fieldType = .bit) :
    cellReader c b = do
      let bits := (← Reader.lenEncBytes).getD []
      return b.set .bit (some [if bits.any (· != 0) then 1 else 0]) 1 true := by
  rw [cellReader, h]

/-- A cell is read into its binding, whatever that held before, and is refused where it breaks
off. -/
theorem reads_cell (h : cell.Fits c) (b : Binding) :
    ∃ b', Reads (cellReader c b) cell.encode b' ∧ Short (cellReader c b) cell.encode ∧
      Shows c (some cell) b' := by
  cases cell with
  | nothing =>
    have htype : c.fieldType = .null := h
    rw [cellReader_null b htype]
    refine ⟨_, .pure _, fun n hn ↦ absurd hn (Nat.not_lt_zero n), ?_⟩
    rw [Binding.setNull, b.set_none_fixed rfl]
    exact ⟨htype.symm, fun h ↦ (by rw [htype] at h; cases h), rfl, by rw [htype]; rfl, rfl, rfl,
      rfl, by rw [htype]; rfl, rfl⟩
  | fixed data =>
    obtain ⟨hw, hnull, hbit⟩ := h
    have hpresent := beq_false_of_ne hnull
    rw [cellReader_fixed b hw hnull hbit]
    refine ⟨_, (reads_bytes rfl).map _, (short_bytes rfl).bind_left _, ?_⟩
    rw [b.set_fixed hw rfl]
    exact ⟨rfl, fun _ ↦ rfl, rfl, rfl, by simp [Binding.storage, storage, hw, hpresent], rfl, rfl,
      by rw [hw]; rfl, rfl⟩
  | bits data =>
    obtain ⟨htype, hlength⟩ := h
    rw [cellReader_bit b htype]
    refine ⟨_, (reads_lenEncBytes hlength).map _, (short_lenEncBytes hlength).bind_left _, ?_⟩
    rw [b.set_fixed rfl rfl]
    have hbits : ofLE [if data.any (· != 0) then 1 else 0] =
        if data.any (· != 0) then 1 else 0 := by
      split <;> rfl
    exact ⟨htype.symm, fun h ↦ (by rw [htype] at h; cases h), rfl, by rw [htype]; rfl,
      congrArg Binding.Storage.scalar hbits, hbits, rfl, by rw [htype]; rfl, rfl⟩
  | bytes data =>
    obtain ⟨hw, ht, hlength⟩ := h
    have hpresent := ne_null_of_fixedWidth hw
    rw [cellReader_bytes b hw ht]
    refine ⟨_, (reads_lenEncBytes hlength).map _, (short_lenEncBytes hlength).bind_left _, ?_⟩
    rw [Option.getD_some, b.set_bytes hw ht]
    refine ⟨rfl, fun _ ↦ rfl, rfl, hpresent.symm, ?_, rfl, ?_, by rw [hw, ht]; rfl, rfl⟩
    · by_cases hdata : data = [] <;>
        simp [Binding.storage, Binding.setIsNull, storage, hw, ht, hdata]
    · by_cases hdata : data = [] <;>
        simp [Binding.bytes, Binding.setIsNull, RowCell.data, hdata]
  | date d =>
    obtain ⟨ht, htime⟩ := h
    have hw := FieldType.fixedWidth_of_isTemporal ht
    rw [cellReader_temporal b ht]
    refine ⟨_, (d.reads_encode htime).map _, (d.short_encode _).bind_left _, ?_⟩
    rw [b.setTime_eq ht]
    exact ⟨rfl, fun h ↦ absurd h (not_integer_of_isTemporal ht), rfl, rfl,
      by simp [Binding.storage, storage, hw, ht], rfl, rfl, by rw [hw, ht]; rfl, rfl⟩
  | time t =>
    obtain ⟨htype, hhours⟩ := h
    have ht : c.fieldType.isTemporal = true := by rw [htype]; rfl
    have hw := FieldType.fixedWidth_of_isTemporal ht
    rw [cellReader_temporal b ht, htype]
    refine ⟨_, (t.reads_encode hhours).map _, t.short_encode.bind_left _, ?_⟩
    rw [b.setTime_eq rfl]
    exact ⟨htype.symm, fun h ↦ absurd h (not_integer_of_isTemporal ht), rfl, by rw [htype]; rfl,
      rfl, rfl, rfl, by rw [hw, ht]; rfl, rfl⟩

end RowCell

/-! ## Rows -/

/-- A bitmap tells which cells are missing, from its third bit on.  Its other bits may be any. -/
structure Marks (bitmap : Bytes) (cells : List (Option RowCell)) : Prop where
  length : bitmap.length = (cells.length + 9) / 8
  bit (i : Nat) (h : i < cells.length) : (ofLE bitmap).testBit (i + 2) = cells[i].isNone

/-- The bytes of the cells that are not missing. -/
def cellBytes (cells : List (Option RowCell)) : Bytes :=
  (cells.filterMap id).flatMap RowCell.encode

/-- A row with some cells. -/
def layoutRow (bitmap : Bytes) (cells : List (Option RowCell)) : Bytes :=
  0x00 :: bitmap ++ cellBytes cells

/-- Each cell that is not missing is of the kind that its column has. -/
def CellsFit (columns : List Column) (cells : List (Option RowCell)) : Prop :=
  List.Forall₂ (fun c cell ↦ ∀ x ∈ cell, RowCell.Fits c x) columns cells

variable {columns : List Column} {cells : List (Option RowCell)} {bs : List Binding}
  {bitmap : Bytes} {index : Nat}

theorem short_header (count : Nat) (h : bitmap.length = (count + 9) / 8) :
    Short (rowHeader count) (0x00 :: bitmap) := by
  refine (short_byte 0x00).bind (reads_byte 0x00) ?_
  rw [if_neg (not_not_intro rfl)]
  exact short_bytes h

/-- The bytes of a row, as they are given to the decoder of the cells. -/
theorem flatten_encode (cells : List (Option RowCell)) :
    ((cells.map (Option.map RowCell.encode)).filterMap id).flatten = cellBytes cells := by
  rw [cellBytes, List.flatMap_def, List.map_filterMap, List.filterMap_map]
  rfl

theorem CellsFit.isCell (h : CellsFit columns cells) :
    List.Forall₂ IsCell columns (cells.map (Option.map RowCell.encode)) := by
  rw [List.forall₂_map_right_iff]
  refine h.imp fun c cell hfits ↦ ?_
  cases cell with
  | none => trivial
  | some x =>
    rintro b
    obtain ⟨b', hreads, -⟩ := RowCell.reads_cell (hfits x rfl) b
    exact ⟨b', hreads⟩

theorem CellsFit.getElem? (h : CellsFit columns cells) {i : Nat} {c : Column} {x : RowCell}
    (hc : columns[i]? = some c) (hx : cells[i]? = some (some x)) : x.Fits c := by
  induction h generalizing i with
  | nil => cases hc
  | cons hcell _ ih =>
    cases i with
    | zero =>
      cases hc
      cases hx
      exact hcell x rfl
    | succ i => exact ih hc hx

/-- Bindings that have taken the bytes of some cells show these cells. -/
theorem Taken.shows (h : Taken columns (cells.map (Option.map RowCell.encode)) bs)
    (hfits : CellsFit columns cells) {i : Nat} {c : Column} {cell : Option RowCell}
    (hc : columns[i]? = some c) (hcell : cells[i]? = some cell) :
    ∃ b, bs[i]? = some b ∧ RowCell.Shows c cell b := by
  have hbytes : (cells.map (Option.map RowCell.encode))[i]? = some (cell.map RowCell.encode) := by
    rw [List.getElem?_map, hcell]
    rfl
  cases cell with
  | none =>
    obtain ⟨b, hb⟩ := h.getElem?_missing hc hbytes
    exact ⟨_, hb, RowCell.shows_missing c b⟩
  | some x =>
    obtain ⟨b, b', hb, hreads⟩ := h.getElem? hc hbytes
    obtain ⟨b'', hreads', -, hshows⟩ := RowCell.reads_cell (hfits.getElem? hc hcell) b
    exact ⟨b', hb, hreads'.unique hreads ▸ hshows⟩

/-- Cells that break off are refused, whichever of them are missing. -/
theorem decodeCells_short (hfits : CellsFit columns cells) (hlength : bs.length = columns.length)
    (hbits : ∀ i (h : i < cells.length), testBit bitmap (index + i + 2) = cells[i].isNone) {n : Nat}
    (hn : n < (cellBytes cells).length) :
    (decodeCells bitmap index columns bs ((cellBytes cells).take n)).1 =
      .error (.protocol .tooShort) := by
  induction hfits generalizing index bs n with
  | nil => exact absurd hn (Nat.not_lt_zero n)
  | @cons c cell columns cells hcell _ ih =>
    obtain ⟨b, bs, rfl⟩ := List.exists_cons_of_length_eq_add_one hlength
    obtain ⟨hhead, htail⟩ := testBit_cons hbits
    cases cell with
    | none =>
      have hmissing : testBit bitmap (index + 2) = true := hhead
      rw [decodeCells, if_pos hmissing]
      exact ih (Nat.succ.inj hlength) htail hn
    | some x =>
      have hpresent : testBit bitmap (index + 2) = false := hhead
      obtain ⟨b', hreads, hshort, -⟩ := RowCell.reads_cell (hcell x rfl) b
      have hbytes : cellBytes (some x :: cells) = x.encode ++ cellBytes cells := rfl
      rw [hbytes, List.length_append] at hn
      rw [decodeCells, if_neg (by rw [hpresent]; exact Bool.false_ne_true), hbytes]
      rcases Nat.lt_or_ge n x.encode.length with hlt | hge
      · rw [List.take_append_of_le_length (Nat.le_of_lt hlt)]
        obtain ⟨rest, hrest⟩ := exists_rest (hshort n hlt)
        rw [hrest]
      · rw [List.take_append, List.take_of_length_le hge, hreads]
        exact ih (Nat.succ.inj hlength) htail (by omega)

theorem Marks.testBit_eq (h : Marks bitmap cells) (i : Nat) (hi : i < cells.length) :
    testBit bitmap (0 + i + 2) = cells[i].isNone := by
  rw [testBit_eq_ofLE, Nat.zero_add]
  exact h.bit i hi

section Decoding

variable (hfits : CellsFit columns cells) (hmarks : Marks bitmap cells)
  (hlength : bs.length = columns.length)

include hfits hmarks hlength

/-- Every cell of a row is shown by its binding, whatever that held before and whatever stands
behind the row. -/
theorem decodeRow_shows (trailing : Bytes) :
    ∃ bs', decodeRow (layoutRow bitmap cells ++ trailing) columns bs = (.ok (), bs') ∧
      bs'.length = columns.length ∧
      ∀ (i : Nat) (c : Column) (cell : Option RowCell), columns[i]? = some c →
        cells[i]? = some cell → ∃ b, bs'[i]? = some b ∧ RowCell.Shows c cell b := by
  have hbits (i : Nat) (h : i < (cells.map (Option.map RowCell.encode)).length) :
      testBit bitmap (0 + i + 2) = (cells.map (Option.map RowCell.encode))[i].isNone := by
    rw [List.getElem_map, Option.isNone_map]
    exact hmarks.testBit_eq i (by rwa [List.length_map] at h)
  obtain ⟨bs', hdecode, htaken⟩ := decodeCells_taken trailing hfits.isCell hlength hbits
  rw [flatten_encode] at hdecode
  refine ⟨bs', ?_, htaken.length_eq, fun i c cell ↦ htaken.shows hfits⟩
  rw [decodeRow, if_neg (not_not_intro hlength), layoutRow, List.append_assoc,
    reads_header columns.length (by rw [hmarks.length, hfits.length_eq])]
  exact hdecode

/-- A row that breaks off is refused. -/
theorem decodeRow_short {n : Nat} (hn : n < (layoutRow bitmap cells).length) :
    (decodeRow ((layoutRow bitmap cells).take n) columns bs).1 = .error (.protocol .tooShort) := by
  have hheader : bitmap.length = (columns.length + 9) / 8 := by
    rw [hmarks.length, hfits.length_eq]
  rw [layoutRow, List.length_append] at hn
  rw [decodeRow, if_neg (not_not_intro hlength), layoutRow]
  rcases Nat.lt_or_ge n (0x00 :: bitmap).length with hlt | hge
  · rw [List.take_append_of_le_length (Nat.le_of_lt hlt)]
    obtain ⟨rest, hrest⟩ := exists_rest (short_header columns.length hheader n hlt)
    rw [hrest]
  · rw [List.take_append, List.take_of_length_le hge, reads_header columns.length hheader]
    exact decodeCells_short hfits hlength hmarks.testBit_eq (by omega)

end Decoding

/-- A row is decoded exactly, whatever its bindings held before and whatever stands behind it: each
binding shows its cell and nothing else.  Every beginning of the row that is not all of it is
refused. -/
theorem decodeRow_layout (hfits : CellsFit columns cells) (hmarks : Marks bitmap cells)
    (hlength : bs.length = columns.length) :
    (∀ trailing, ∃ bs', decodeRow (layoutRow bitmap cells ++ trailing) columns bs = (.ok (), bs') ∧
      bs'.length = columns.length ∧
      ∀ (i : Nat) (c : Column) (cell : Option RowCell), columns[i]? = some c →
        cells[i]? = some cell → ∃ b, bs'[i]? = some b ∧ RowCell.Shows c cell b) ∧
    ∀ packet, packet <+: layoutRow bitmap cells → packet ≠ layoutRow bitmap cells →
      (decodeRow packet columns bs).1 = .error (.protocol .tooShort) := by
  refine ⟨decodeRow_shows hfits hmarks hlength, ?_⟩
  rintro packet hbeginning hne
  have htake := List.prefix_iff_eq_take.1 hbeginning
  have hlt : packet.length < (layoutRow bitmap cells).length :=
    Nat.lt_of_le_of_ne hbeginning.length_le fun h ↦ hne (hbeginning.eq_of_length h)
  rw [htake]
  exact decodeRow_short hfits hmarks hlength hlt

/-- A number without a sign, a missing text and a length of time whose clock runs past a day, read
into bindings that hold other bytes. -/
theorem decodeRow_layout_mixed :
    let columns : List Column :=
      [{ name := "n", fieldType := .tiny, flags := unsignedFlag },
        { name := "s", fieldType := .string }, { name := "t", fieldType := .time }]
    let cells := [some (.fixed [0xff]), none, some (.time (.seconds 1 40 25 59 61))]
    let old : Binding :=
      { fieldType := .blob, buffer := some [1, 2], length := 2, isNull := false, truncated := true }
    ∃ bs, decodeRow (layoutRow [0xc8] cells ++ [7]) columns [old, old, old] = (.ok (), bs) ∧
      (∃ b, bs[0]? = some b ∧ b.storage = .scalar 255 ∧ b.unsigned = true) ∧
      (∃ b, bs[1]? = some b ∧ b.storage = .empty ∧ b.isNull = true) ∧
      ∃ b, bs[2]? = some b ∧ b.storage =
        .time { hour := 985, minute := 59, second := 61, negative := true, kind := .time } := by
  intro columns cells old
  have hfits : CellsFit columns cells := by
    refine .cons ?_ (.cons nofun (.cons ?_ .nil))
    · rintro _ ⟨⟩
      exact ⟨rfl, by decide, by decide⟩
    · rintro _ ⟨⟩
      exact ⟨rfl, by decide⟩
  have hmarks : Marks [0xc8] cells := ⟨by decide, by decide⟩
  have hold : [old, old, old].length = columns.length := rfl
  obtain ⟨bs, hdecode, hlength, hshows⟩ := (decodeRow_layout hfits hmarks hold).1 [7]
  obtain ⟨b₀, hb₀, hnumber⟩ := hshows 0 _ _ rfl rfl
  obtain ⟨b₁, hb₁, htext⟩ := hshows 1 _ _ rfl rfl
  obtain ⟨b₂, hb₂, htime⟩ := hshows 2 _ _ rfl rfl
  exact ⟨bs, hdecode, ⟨b₀, hb₀, hnumber.storage, hnumber.unsigned⟩,
    ⟨b₁, hb₁, htext.storage, htext.isNull⟩, ⟨b₂, hb₂, htime.storage⟩⟩

end MariaClient.Wire
