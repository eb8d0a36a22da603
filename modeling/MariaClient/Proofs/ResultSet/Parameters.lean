import MariaClient.Proofs.Wire.Execution
import MariaClient.ResultSet.Accessor

/-!
# Parameters that come back

A server that echoes the parameters of a statement as a row gives a client its own values: each
column of the row is read by the accessor of its type as the value that was given to the statement
(`read_echo`).
-/

namespace MariaClient

open Temporal Calendar Wire

/-! ## Dates and times on the wire -/

namespace Temporal

theorem TimeOfDay.ofWire_toWire {t : TimeOfDay}
    (h : valid t.hour t.minute t.second t.millisecond = true) : ofWire t.toWire = .ok t := by
  have hms : t.millisecond * 1000 / 1000 = t.millisecond := Nat.mul_div_cancel _ (by decide)
  simp only [ofWire, toWire, WireTime.millisecond, hms, TimeOfDay.of, h, if_true]

theorem DateTime.ofWire_toWire {d : DateTime} (hdate : validDate d.year d.month d.day = true)
    (htime : TimeOfDay.valid d.time.hour d.time.minute d.time.second d.time.millisecond = true) :
    ofWire { d.toWire with kind := .dateTime } = .ok d := by
  have hms : d.time.millisecond * 1000 / 1000 = d.time.millisecond :=
    Nat.mul_div_cancel _ (by decide)
  simp only [ofWire, toWire, TimeOfDay.toWire, WireTime.millisecond, hms, DateTime.of, hdate,
    htime, Bool.and_self, if_true]

theorem DateTime.ofWire_date {d : DateTime} (hdate : validDate d.year d.month d.day = true) :
    ofWire { d.date.toWire with kind := .date } = .ok d.date :=
  DateTime.ofWire_toWire hdate (show TimeOfDay.valid 0 0 0 0 = true by decide)

end Temporal

/-! ## Numbers in bindings -/

theorem IntWidth.pow_bytes (w : IntWidth) : 256 ^ w.bytes = 2 ^ w.bits := by
  cases w <;> rfl

/-- The lowest bytes of an integer.  The highest of them tells the sign, if there is one. -/
def integerBytes (w : IntWidth) (n : Int) : Bytes :=
  toLE w.bytes (lowBits 64 n)

namespace Binding

/-- The lowest bits of a number with a sign tell the number, if it fits them. -/
theorem signExtend_lowBits {bits : Nat} {n : Int} (hpos : 0 < bits) (hle : bits ≤ 64)
    (h : Text.fitsSigned bits n = true) : signExtend bits (lowBits 64 n % 2 ^ bits) = n := by
  rw [Text.fitsSigned_iff] at h
  have hhalf : (2 ^ bits : Nat) = 2 * 2 ^ (bits - 1) := by
    rw [← Nat.pow_succ', Nat.succ_eq_add_one, Nat.sub_add_cancel hpos]
  have hdvd : ((2 ^ bits : Nat) : Int) ∣ ((2 ^ 64 : Nat) : Int) :=
    Int.natCast_dvd_natCast.2 (Nat.pow_dvd_pow 2 hle)
  have hnonneg : 0 ≤ n % ((2 ^ 64 : Nat) : Int) := Int.emod_nonneg n (by decide)
  have hlow : ((lowBits 64 n : Nat) : Int) = n % ((2 ^ 64 : Nat) : Int) :=
    Int.toNat_of_nonneg hnonneg
  have hpow : ((2 ^ bits : Nat) : Int) = 2 * 2 ^ (bits - 1) := by
    rw [hhalf, Int.natCast_mul, Int.natCast_pow]
    rfl
  rw [signExtend, Int.natCast_emod, hlow, Int.emod_emod_of_dvd n hdvd, Int.emod_bmod]
  apply Int.bmod_eq_of_le_mul_two
  · rw [hpow]
    omega
  · rw [hpow]
    omega

/-- The integer in a binding, with a sign or without one. -/
def integer (b : Binding) : Int :=
  if b.unsigned then b.toUnsigned else b.signed

/-- A binding that has the lowest bytes of an integer has the integer, if it fits them. -/
theorem integer_of_bytes {b : Binding} {w : IntWidth} {n : Int}
    (hscalar : b.scalar = ofLE (integerBytes w n)) (hlength : b.length = w.bytes)
    (hfits : ResultSet.fits (!b.unsigned) w n = true) : b.integer = n := by
  rw [integerBytes, ofLE_toLE, IntWidth.pow_bytes] at hscalar
  rw [integer]
  cases hsign : b.unsigned with
  | false =>
    rw [hsign] at hfits
    have hextend : signExtend w.bits (lowBits 64 n % 2 ^ w.bits) = n :=
      signExtend_lowBits (by cases w <;> decide) (by cases w <;> decide) hfits
    rw [if_neg Bool.false_ne_true, signed, hsign, hscalar, hlength]
    cases w <;> simpa [IntWidth.bytes, IntWidth.bits] using hextend
  | true =>
    rw [hsign] at hfits
    have hword : Text.fitsUnsigned w.bits n = true := hfits
    rw [Text.fitsUnsigned, Bool.and_eq_true, decide_eq_true_eq, decide_eq_true_eq] at hword
    rw [if_pos rfl, toUnsigned, if_pos hsign, hscalar, lowBits]
    cases w <;> simp only [IntWidth.bits] at hword ⊢ <;> omega

end Binding

namespace Param

/-! ## How a value is read -/

/-- The accessor of the type of a value. -/
def accessor : Param → Accessor
  | signed w _ => .integer true w
  | unsigned w _ => .integer false w
  | boolean _ => .boolean
  | float _ => .float
  | double _ => .double
  | text _ => .string
  | blob _ => .blob
  | time _ => .time
  | dateTime _ => .dateTime
  | date _ => .date
  | decimal _ => .decimal
  | null => .isNull

/-- The value as its accessor gives it.  A date has no time of day. -/
def reading : Param → Reading
  | signed w n => .integer w n
  | unsigned w n => .integer w n
  | boolean v => .flag v
  | float bits => .float bits
  | double bits => .double bits
  | text s => .text s
  | blob bs => .bytes bs
  | time t => .time t
  | dateTime d => .dateTime d
  | date d => .dateTime d.date
  | decimal d => .decimal d
  | null => .flag true

/-- A value of a fixed width is kept as the number that its bytes make. -/
theorem bind_scalar (b : Binding) {p : Param} {width : Nat} (hp : p ≠ .null)
    (hw : p.fieldType.fixedWidth = some width) :
    (p.bind b).scalar = ofLE p.payload ∧ (p.bind b).length = width := by
  cases layout hp with
  | fixed w hw' hlength hbind =>
    obtain rfl : w = width := Option.some.inj (hw'.symm.trans hw)
    rw [hbind, b.set_fixed hw hlength]
    exact ⟨rfl, rfl⟩
  | bytes data hnone => exact absurd (hnone.symm.trans hw) nofun
  | temporal t ht =>
    exact absurd ((FieldType.fixedWidth_of_isTemporal ht).symm.trans hw) nofun

/-- An integer with a sign that fits its width comes back from its binding. -/
theorem integer_bind_signed (b : Binding) {w : IntWidth} {n : Int} (h : (signed w n).Fits) :
    ((signed w n).bind b).integer = n := by
  obtain ⟨hscalar, hlength⟩ := bind_scalar b (p := signed w n) nofun (fixedWidth_integerType w)
  refine Binding.integer_of_bytes hscalar hlength ?_
  rw [bind_unsigned]
  exact h

/-- An integer without a sign that fits its width comes back from its binding. -/
theorem integer_bind_unsigned (b : Binding) {w : IntWidth} {n : Nat} (h : (unsigned w n).Fits) :
    ((unsigned w n).bind b).integer = n := by
  obtain ⟨hscalar, hlength⟩ := bind_scalar b (p := unsigned w n) nofun (fixedWidth_integerType w)
  have hlt : n < 2 ^ w.bits := h
  have hword : (n : Int) < 2 ^ w.bits := by exact_mod_cast hlt
  have hlow : lowBits 64 n = n := by
    rw [lowBits]
    cases w <;> simp only [IntWidth.bits] at hword <;> omega
  refine Binding.integer_of_bytes (by rw [hscalar, integerBytes, hlow]; rfl) hlength ?_
  rw [bind_unsigned]
  simpa [ResultSet.fits, Text.fitsUnsigned, isUnsigned] using hword

theorem boolean_bind (b : Binding) (v : Bool) :
    (((boolean v).bind b).toUnsigned != 0) = v := by
  obtain ⟨hscalar, hlength⟩ := bind_scalar b (p := boolean v) nofun rfl
  rw [Binding.toUnsigned, Binding.signed, bind_unsigned, hscalar, hlength]
  cases v with
  | false => simp [isUnsigned, payload, ofLE, signExtend, lowBits]
  | true => simp [isUnsigned, payload, ofLE, signExtend, lowBits]

theorem float_bind (b : Binding) {bits : Nat} (h : (float bits).Fits) :
    ((float bits).bind b).float = bits := by
  have hscalar := (bind_scalar b (p := float bits) nofun rfl).1
  rw [payload, ofLE_toLE, Nat.mod_eq_of_lt h] at hscalar
  rw [Binding.float, hscalar]
  exact Nat.mod_eq_of_lt h

theorem double_bind (b : Binding) {bits : Nat} (h : (double bits).Fits) :
    ((double bits).bind b).double = bits := by
  have hscalar := (bind_scalar b (p := double bits) nofun rfl).1
  rw [payload, ofLE_toLE] at hscalar
  exact hscalar.trans (Nat.mod_eq_of_lt h)

theorem bytes_setBytes (b : Binding) {fieldType : FieldType} (hw : fieldType.fixedWidth = none)
    (ht : fieldType.isTemporal = false) (data : Bytes) :
    (b.setBytes fieldType data).bytes = data := by
  rw [Binding.setBytes, b.set_bytes hw ht]
  by_cases h : data = []
  · simp [Binding.bytes, h]
  · simp [Binding.bytes, h]

theorem bytes_bind_text (b : Binding) (s : String) : ((text s).bind b).bytes = Text.encode s :=
  bytes_setBytes b rfl rfl (Text.encode s)

theorem bytes_bind_blob (b : Binding) (bs : Bytes) : ((blob bs).bind b).bytes = bs :=
  bytes_setBytes b rfl rfl bs

/-- The value type of a column whose type is that of a parameter. -/
def valueType : Param → ValueType
  | signed w _ => .integer true w
  | unsigned w _ => .integer false w
  | boolean _ => .integer true .w8
  | float _ => .float32
  | double _ => .double64
  | text _ => .string
  | blob _ => .blob
  | time _ => .time
  | dateTime _ => .dateTime
  | date _ => .date
  | decimal _ => .decimal
  | null => .null

theorem valueType_eq {c : Column} {p : Param} (htype : c.fieldType = p.fieldType)
    (hunsigned : c.isUnsigned = p.isUnsigned) : c.valueType = p.valueType := by
  rw [Column.valueType, htype, hunsigned]
  cases p with
  | signed w n => cases w <;> rfl
  | unsigned w n => cases w <;> rfl
  | _ => rfl

end Param

namespace ResultSet

theorem bind_ok {α β : Type} {x : Except Error α} {a : α} (h : x = .ok a)
    (f : α → Except Error β) : x >>= f = f a := by
  subst h
  rfl

variable {rs : ResultSet} {n : Nat} {c : Column} {cell : Cell} {b : Binding}

theorem column_index (hc : rs.columns[n]? = some c) : rs.column (.index n) = .ok (n, c) := by
  simp only [column, hc]

/-- The column that a caller names is there. -/
theorem getElem?_of_column {ref : ColumnRef} (h : rs.column ref = .ok (n, c)) :
    rs.columns[n]? = some c := by
  unfold column at h
  dsimp only at h
  split at h
  · split at h
    next hc =>
      cases h
      exact hc
    next => cases h
  · cases h
  · cases h

theorem column_congr {rs' : ResultSet} {ref : ColumnRef} (hcolumns : rs'.columns = rs.columns) :
    rs'.column ref = rs.column ref := by
  unfold column
  rw [hcolumns]

theorem typed_of_column {ref : ColumnRef} {requested : ValueType}
    (hcolumn : rs.column ref = .ok (n, c)) (hcompatible : requested.compatible c.valueType = true)
    (hcell : rs.cell n = .ok cell) : rs.typed ref requested = .ok (n, c, cell) :=
  (bind_ok hcolumn _).trans <| (bind_ok (if_pos hcompatible) _).trans <| bind_ok hcell _

theorem typed_eq {requested : ValueType} (hc : rs.columns[n]? = some c)
    (hcompatible : requested.compatible c.valueType = true) (hcell : rs.cell n = .ok cell) :
    rs.typed (.index n) requested = .ok (n, c, cell) :=
  typed_of_column (column_index hc) hcompatible hcell

/-- An integer that fits the width in which it is read. -/
theorem getInteger_of_bound {ref : ColumnRef} {signed : Bool} {w : IntWidth} {k : Int}
    (htyped : rs.typed ref (.integer signed w) = .ok (n, c, .bound b))
    (hvalue : b.integer = k)
    (hfits : fits signed w k = true) : rs.getInteger ref signed w = .ok k := by
  have hinteger : rs.integer ref (.integer signed w) = .ok k :=
    (bind_ok htyped _).trans (congrArg _ hvalue)
  exact (bind_ok hinteger _).trans (if_pos hfits)

section Bound

variable {ref : ColumnRef}

theorem getBytes_of_bound {requested : ValueType}
    (h : rs.typed ref requested = .ok (n, c, .bound b)) : rs.getBytes ref requested = .ok b.bytes :=
  bind_ok h _

theorem getBoolean_of_bound (h : rs.typed ref .boolean = .ok (n, c, .bound b)) :
    rs.getBoolean ref = .ok (b.toUnsigned != 0) :=
  bind_ok h _

theorem getFloat_of_bound (h : rs.typed ref .float32 = .ok (n, c, .bound b)) :
    rs.getFloat ref = .ok b.float :=
  bind_ok h _

theorem getDouble_of_bound (h : rs.typed ref .double64 = .ok (n, c, .bound b)) :
    rs.getDouble ref = .ok b.double :=
  bind_ok h _

theorem temporal_of_bound {requested : ValueType}
    (h : rs.typed ref requested = .ok (n, c, .bound b)) :
    rs.temporal ref requested = DateTime.ofWire b.time :=
  bind_ok h _

theorem getTime_of_bound (h : rs.typed ref .time = .ok (n, c, .bound b)) :
    rs.getTime ref = TimeOfDay.ofWire b.time :=
  bind_ok h _

end Bound

/-- A column that holds a value is read as this value by the accessor of its type. -/
theorem read_bound {p : Param} (hc : rs.columns[n]? = some c)
    (htype : c.fieldType = p.fieldType) (hunsigned : c.isUnsigned = p.isUnsigned)
    (hp : p ≠ .null) (hfits : p.Fits) (hcell : rs.cell n = .ok (.bound (p.bind b))) :
    rs.read (.index n) p.accessor = .ok p.reading := by
  have htyped (requested : ValueType) (h : requested.compatible p.valueType = true) :
      rs.typed (.index n) requested = .ok (n, c, .bound (p.bind b)) :=
    typed_eq hc (by rwa [Param.valueType_eq htype hunsigned]) hcell
  cases p with
  | signed w k =>
    have hget := getInteger_of_bound (htyped (.integer true w) (ValueType.compatible_self _))
      (Param.integer_bind_signed b hfits) hfits
    exact congrArg (Except.map (Reading.integer w)) hget
  | unsigned w k =>
    have hlt : (k : Int) < 2 ^ w.bits := by exact_mod_cast (show k < 2 ^ w.bits from hfits)
    have hfit : fits false w k = true := by simpa [fits, Text.fitsUnsigned] using hlt
    have hget := getInteger_of_bound (htyped (.integer false w) (ValueType.compatible_self _))
      (Param.integer_bind_unsigned b hfits) hfit
    exact congrArg (Except.map (Reading.integer w)) hget
  | boolean v =>
    have hget := getBoolean_of_bound (htyped .boolean rfl)
    rw [Param.boolean_bind] at hget
    exact congrArg (Except.map Reading.flag) hget
  | float bits =>
    have hget := getFloat_of_bound (htyped .float32 rfl)
    rw [Param.float_bind b hfits] at hget
    exact congrArg (Except.map Reading.float) hget
  | double bits =>
    have hget := getDouble_of_bound (htyped .double64 rfl)
    rw [Param.double_bind b hfits] at hget
    exact congrArg (Except.map Reading.double) hget
  | text s =>
    have hbytes := getBytes_of_bound (htyped .string rfl)
    rw [Param.bytes_bind_text] at hbytes
    have hget : rs.getString (.index n) = .ok s :=
      (bind_ok hbytes _).trans (congrArg Except.ok (Text.decode_encode s))
    exact congrArg (Except.map Reading.text) hget
  | blob bs =>
    have hget : rs.getBlob (.index n) = .ok _ := getBytes_of_bound (htyped .blob rfl)
    rw [Param.bytes_bind_blob] at hget
    exact congrArg (Except.map Reading.bytes) hget
  | time t =>
    have hget := (getTime_of_bound (htyped .time rfl)).trans (TimeOfDay.ofWire_toWire hfits)
    exact congrArg (Except.map Reading.time) hget
  | dateTime d =>
    have hget : rs.getDateTime (.index n) = .ok d :=
      (temporal_of_bound (htyped .dateTime rfl)).trans (DateTime.ofWire_toWire hfits.1 hfits.2)
    exact congrArg (Except.map Reading.dateTime) hget
  | date d =>
    have htemporal := (temporal_of_bound (htyped .date rfl)).trans (DateTime.ofWire_date hfits.1)
    have hget : rs.getDate (.index n) = .ok d.date := bind_ok htemporal _
    exact congrArg (Except.map Reading.dateTime) hget
  | decimal d => exact hfits.elim
  | null => exact absurd rfl hp

theorem isNull_eq (hc : rs.columns[n]? = some c) (hcell : rs.cell n = .ok cell) :
    rs.isNull (.index n) = .ok (cell == .null) :=
  (bind_ok (column_index hc) _).trans (bind_ok hcell _)

/-- A column of the type of a parameter tells whether it is missing, and its value if it is not. -/
theorem read_cell {p : Param} (hc : rs.columns[n]? = some c) (htype : c.fieldType = p.fieldType)
    (hunsigned : c.isUnsigned = p.isUnsigned) (hfits : p.Fits)
    (hcell : rs.cell n = .ok (if (p.bind b).isNull then .null else .bound (p.bind b))) :
    rs.isNull (.index n) = .ok (p == .null) ∧ rs.read (.index n) p.accessor = .ok p.reading := by
  rw [Param.bind_isNull] at hcell
  by_cases hp : p = .null
  · subst hp
    have hmissing : rs.isNull (.index n) = .ok true := isNull_eq hc hcell
    exact ⟨hmissing, congrArg (Except.map Reading.flag) hmissing⟩
  · rw [beq_false_of_ne hp] at hcell ⊢
    exact ⟨isNull_eq hc hcell, read_bound hc htype hunsigned hp hfits hcell⟩

/-! ## Rows that echo parameters -/

variable {packets : List Bytes} {cells : List Binding} {params : List Param} {row : Nat}

/-- A row of echoed parameters is decoded into the bindings that the parameters make. -/
theorem seek_echo (hrows : rs.rows = .binary packets cells)
    (htyped : Param.Typed rs.columns params) (hcells : cells.length = params.length)
    (hfits : ∀ p ∈ params, p.Fits)
    (hpacket : packets[row]? = some (binaryRow (params.map (· == .null))
      ((params.filter (· != .null)).map Param.payload))) :
    rs.seek row = (.ok true,
      { rs with rows := .binary packets (Param.bindAll cells params), position := some row }) := by
  obtain ⟨hrow, -⟩ := List.getElem?_eq_some_iff.1 hpacket
  have hcount : row < rs.rowCount := by
    rw [rowCount, hrows]
    exact hrow
  have hload : rs.load row = (.ok (),
      { rs with rows := .binary packets (Param.bindAll cells params), position := some row }) := by
    simp only [load, hrows, List.getD_eq_getElem?_getD, hpacket, Option.getD_some,
      Param.decodeRow_echo htyped hcells hfits]
  rw [seek, if_pos hcount, hload]
  rfl

/-- The cell of a column in a row that was decoded. -/
theorem cell_binary (hrows : rs.rows = .binary packets cells) (hposition : rs.position = some row)
    (hrow : row < packets.length) (hb : cells[n]? = some b) :
    rs.cell n = .ok (if b.isNull then .null else .bound b) := by
  have hindex : rs.rowIndex = some row := by
    rw [rowIndex, hposition, rowCount, hrows]
    exact if_pos (decide_eq_true hrow)
  have hget : Bindings.get cells n = .ok b := by simp only [Bindings.get, hb]
  simp only [cell, hindex, hrows]
  exact bind_ok hget _

/-- The command that executes a statement tells a server the parameters, and a row that echoes them
gives a client the same values.

The command is read by its layout: the identifier comes back, and so do the places of the missing
parameters and the code of each type with its sign, and no byte is left over.  Let a row of a result
hold the bytes that stood in the command, under columns of the types that the command told.  Then
the row can be decoded, whatever the bindings of the row and of the statement held before; exactly
the cells of missing parameters are missing, and the accessor of its type gives each value as it was
sent. -/
theorem read_echo {statementId : Nat} (hid : statementId < 2 ^ 32)
    {params : List Param} (hfits : ∀ p ∈ params, p.Fits) {bindings : List Binding}
    (hlength : bindings.length = params.length) :
    ∃ e : Execution,
      executionReader params.length (executeCommand statementId (Param.bindAll bindings params)) =
        (.ok e, []) ∧
      e.statementId = statementId ∧
      e.flags = 0 ∧
      e.iterations = 1 ∧
      e.nulls = params.map (· == .null) ∧
      e.types = params.map Param.type ∧
      ∀ (rs : ResultSet) (packets : List Bytes) (cells : List Binding) (row : Nat),
        rs.columns.map (fun c ↦ (c.fieldType.code, c.isUnsigned)) = e.types →
        rs.rows = .binary packets cells →
        cells.length = rs.columns.length →
        packets[row]? = some (binaryRow e.nulls e.values) →
        ∃ rs' : ResultSet, rs.seek row = (.ok true, rs') ∧
          ∀ (n : Nat) (p : Param), params[n]? = some p →
            rs'.isNull (.index n) = .ok (p == .null) ∧
            rs'.read (.index n) p.accessor = .ok p.reading := by
  have hr := Param.reads_executeCommand hid hlength hfits []
  rw [List.append_nil] at hr
  refine ⟨Param.execution statementId params, hr, rfl, rfl, rfl, rfl, rfl, ?_⟩
  intro rs packets cells row htypes hrows hcells hpacket
  have htyped := Param.typed_of_types htypes
  have hcells := hcells.trans htyped.length_eq
  have hrow := (List.getElem?_eq_some_iff.1 hpacket).1
  refine ⟨_, seek_echo hrows htyped hcells hfits hpacket, fun n p hp ↦ ?_⟩
  obtain ⟨c, hc, htype, hunsigned⟩ := htyped.getElem? hp
  have hn : n < cells.length := hcells ▸ (List.getElem?_eq_some_iff.1 hp).1
  have hb := Param.getElem?_bindAll (List.getElem?_eq_getElem hn) hp
  exact read_cell hc htype hunsigned (hfits p (List.mem_of_getElem? hp))
    (cell_binary rfl rfl hrow hb)

/-- Nine parameters, one of them missing, so that each bitmap has a second byte. -/
def nineParams : List Param :=
  [.signed .w8 (-3), .unsigned .w64 (2 ^ 64 - 1), .boolean true, .float 0x7fc00001, .null,
    .text "é", .time { hour := 13, minute := 37, second := 42, millisecond := 7 },
    .dateTime { year := 2024, month := 2, day := 29 }, .date { year := 1, month := 1, day := 1 }]

/-- Columns of the types of the nine parameters. -/
def nineColumns : List Column :=
  [{ name := "a", fieldType := .tiny }, { name := "b", fieldType := .longLong, flags := 0x20 },
    { name := "c", fieldType := .tiny }, { name := "d", fieldType := .float },
    { name := "e", fieldType := .null }, { name := "f", fieldType := .string },
    { name := "g", fieldType := .time }, { name := "h", fieldType := .dateTime },
    { name := "i", fieldType := .date }]

theorem read_echo_nineParams :
    (7 < 2 ^ 32 ∧ (∀ p ∈ nineParams, p.Fits) ∧
      (Bindings.fresh 9).length = nineParams.length) ∧
    ∃ (e : Execution) (rs : ResultSet),
      executionReader 9 (executeCommand 7 (Param.bindAll (Bindings.fresh 9) nineParams)) =
        (.ok e, []) ∧
      e.nulls = [false, false, false, false, true, false, false, false, false] ∧
      seek (ofBinary nineColumns [binaryRow e.nulls e.values]) 0 = (.ok true, rs) ∧
      rs.read (.index 0) (.integer true .w8) = .ok (.integer .w8 (-3)) ∧
      rs.isNull (.index 4) = .ok true ∧
      rs.read (.index 5) .string = .ok (.text "é") := by
  have hfits : ∀ p ∈ nineParams, p.Fits := by decide
  have hlength : (Bindings.fresh 9).length = nineParams.length := rfl
  obtain ⟨e, hread, -, -, -, hnulls, htypes, hback⟩ :=
    read_echo (show 7 < 2 ^ 32 by decide) hfits hlength
  obtain ⟨rs, hseek, hcells⟩ := hback (ofBinary nineColumns [binaryRow e.nulls e.values]) _ _ 0
    (htypes ▸ rfl) rfl rfl rfl
  exact ⟨⟨by decide, hfits, hlength⟩, e, rs, hread, hnulls.trans rfl, hseek,
    (hcells 0 _ rfl).2, (hcells 4 _ rfl).1, (hcells 5 _ rfl).2⟩

end ResultSet

end MariaClient
