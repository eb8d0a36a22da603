import MariaClient.Proofs.Wire.Temporal

/-!
# Parameters on the wire

The type and the bytes with which a parameter travels, which do not depend on what its binding held
before (`encodeValue_bind`), and the law that a row with the same bytes is decoded into the same
binding (`reads_cell`): the cell is read as if the value had been given to its binding directly.
-/

namespace MariaClient

open Temporal Calendar Wire

namespace IntWidth

/-- The number of bytes of a width. -/
def bytes (w : IntWidth) : Nat :=
  w.bits / 8

end IntWidth

/-! ## What a parameter is on the wire -/

namespace Param

/-- The field type with which a value travels. -/
def fieldType : Param → FieldType
  | signed w _ | unsigned w _ => integerType w
  | boolean _ => .tiny
  | float _ => .float
  | double _ => .double
  | text _ => .string
  | blob _ => .blob
  | time _ => .time
  | dateTime _ => .dateTime
  | date _ => .date
  | decimal _ => .newDecimal
  | null => .null

/-- A value travels as an integer without a sign. -/
def isUnsigned : Param → Bool
  | unsigned .. => true
  | _ => false

/-- The bytes of a value.  A missing one has none. -/
def payload : Param → Bytes
  | signed w n => toLE w.bytes (lowBits 64 n)
  | unsigned w n => toLE w.bytes n
  | boolean v => [if v then 1 else 0]
  | float bits => toLE 4 bits
  | double bits => toLE 8 bits
  | text s => lenEncBytes (Text.encode s)
  | blob bs => lenEncBytes bs
  | time t => encodeTime t.toWire
  | dateTime d => encodeDate .dateTime { d.toWire with kind := .dateTime }
  | date d => encodeDate .date { d.date.toWire with kind := .date }
  | decimal d => lenEncBytes (Text.encode d.text)
  | null => []

/-- The values of the types that a caller can give, with numbers of the width that they say, texts
and byte strings of a length that the protocol can tell, and dates and times that exist.  Decimals
travel as texts and are not among them. -/
def Fits : Param → Prop
  | signed w n => Text.fitsSigned w.bits n = true
  | unsigned w n => n < 2 ^ w.bits
  | boolean _ | null => True
  | float bits => bits < 2 ^ 32
  | double bits => bits < 2 ^ 64
  | text s => (Text.encode s).length < 2 ^ 64
  | blob bs => bs.length < 2 ^ 64
  | time t => TimeOfDay.valid t.hour t.minute t.second t.millisecond = true
  | dateTime d | date d =>
    validDate d.year d.month d.day = true ∧
      TimeOfDay.valid d.time.hour d.time.minute d.time.second d.time.millisecond = true
  | decimal _ => False

instance : DecidablePred Fits
  | signed .. => inferInstanceAs (Decidable (_ = true))
  | unsigned .. | float _ | double _ | text _ | blob _ => inferInstanceAs (Decidable (_ < _))
  | boolean _ | null => inferInstanceAs (Decidable True)
  | time _ => inferInstanceAs (Decidable (_ = true))
  | dateTime _ | date _ => inferInstanceAs (Decidable (_ ∧ _))
  | decimal _ => inferInstanceAs (Decidable False)

end Param

/-! ## Bindings that were set -/

namespace Binding

variable (b : Binding) {fieldType : FieldType} {data : Bytes} {width : Nat}

/-- A binding that is set has the type and the sign that it is given, and its value is missing only
if the type says so. -/
theorem set_spec (data : Option Bytes) (length : Nat) (unsigned : Bool) :
    (b.set fieldType data length unsigned).fieldType = fieldType ∧
      (b.set fieldType data length unsigned).unsigned = unsigned ∧
      (b.set fieldType data length unsigned).isNull = (fieldType == .null) := by
  unfold set
  split
  · exact ⟨rfl, rfl, rfl⟩
  split
  · exact ⟨rfl, rfl, rfl⟩
  split
  · exact ⟨rfl, rfl, rfl⟩
  · exact ⟨rfl, rfl, rfl⟩

theorem setBytes_spec (data : Bytes) :
    (b.setBytes fieldType data).fieldType = fieldType ∧
      (b.setBytes fieldType data).unsigned = false :=
  have h := b.set_spec (some data) data.length false
  ⟨h.1, h.2.1⟩

/-- A value of a fixed width is kept as a scalar. -/
theorem set_fixed (hw : fieldType.fixedWidth = some width) (hd : data.length = width)
    (length : Nat) (unsigned : Bool) :
    b.set fieldType (some data) length unsigned =
      { b with
        fieldType, unsigned
        isNull := fieldType == .null
        scalar := ofLE data
        buffer := none
        length := width
        truncated := false } := by
  simp [set, hw, ← hd]

/-- A value of no fixed width is kept as its bytes, and as none if it is empty. -/
theorem set_bytes (hw : fieldType.fixedWidth = none) (ht : fieldType.isTemporal = false)
    (data : Bytes) (unsigned : Bool) :
    b.set fieldType (some data) data.length unsigned =
      { b with
        fieldType, unsigned
        isNull := fieldType == .null
        scalar := 0
        buffer := if data = [] then none else some data
        length := data.length
        truncated := false } := by
  rcases data with _ | ⟨x, data⟩
  · simp [set, hw, ht]
  · simp [set, hw, ht, fill]

/-- A binding to which nothing is given keeps nothing of its value.  Only the temporal part stays,
and only in types that do not use it. -/
theorem set_none_fixed (hw : fieldType.fixedWidth = some width) (length : Nat) (unsigned : Bool) :
    b.set fieldType none length unsigned =
      { b with
        fieldType, unsigned
        isNull := fieldType == .null
        scalar := 0
        buffer := none
        length := width
        truncated := false } := by
  simp [set, hw, ofLE]

theorem set_none_temporal (ht : fieldType.isTemporal = true) (length : Nat) (unsigned : Bool) :
    b.set fieldType none length unsigned =
      { fieldType, unsigned, isNull := fieldType == .null, length := temporalLength } := by
  simp [set, FieldType.fixedWidth_of_isTemporal ht, ht]

theorem set_none_bytes (hw : fieldType.fixedWidth = none) (ht : fieldType.isTemporal = false)
    (unsigned : Bool) :
    b.set fieldType none 0 unsigned =
      { b with
        fieldType, unsigned
        isNull := fieldType == .null
        scalar := 0
        buffer := none
        length := 0
        truncated := false } := by
  simp [set, hw, ht]

theorem setTime_eq (ht : fieldType.isTemporal = true) (t : WireTime) :
    b.setTime fieldType t =
      { fieldType, isNull := fieldType == .null, length := temporalLength, time := t } := by
  rw [setTime, b.set_none_temporal ht]

end Binding

/-! ## The bytes of a binding that was set -/

theorem fixedWidth_le {t : FieldType} {width : Nat} (h : t.fixedWidth = some width) :
    width ≤ 8 := by
  cases t <;> cases h <;> decide

theorem encodeValue_fixed (b : Binding) {fieldType : FieldType} {data : Bytes} {width : Nat}
    (hw : fieldType.fixedWidth = some width) (hd : data.length = width)
    (hnull : fieldType ≠ .null) (length : Nat) (unsigned : Bool) :
    encodeValue (b.set fieldType (some data) length unsigned) = data := by
  have hpresent := beq_false_of_ne hnull
  have h8 := fixedWidth_le hw
  subst hd
  rw [b.set_fixed hw rfl]
  simp only [encodeValue, Binding.storage, hw, hpresent, Option.isSome_some, Bool.not_false,
    Bool.and_self, if_true, Binding.scalarBytes, Nat.min_eq_left h8, toLE_ofLE]

theorem encodeValue_setBytes (b : Binding) {fieldType : FieldType}
    (hw : fieldType.fixedWidth = none) (ht : fieldType.isTemporal = false) (data : Bytes) :
    encodeValue (b.setBytes fieldType data) = lenEncBytes data := by
  rw [Binding.setBytes, b.set_bytes hw ht]
  rcases data with _ | ⟨x, data⟩
  · simp [encodeValue, Binding.storage, hw, ht, lenEncBytes, lenEncInt]
  · simp [encodeValue, Binding.storage, hw, ht]

theorem encodeValue_setTime (b : Binding) {fieldType : FieldType}
    (ht : fieldType.isTemporal = true) (t : WireTime) :
    encodeValue (b.setTime fieldType t) = encodeTemporal fieldType t := by
  rw [b.setTime_eq ht]
  simp [encodeValue, Binding.storage, FieldType.fixedWidth_of_isTemporal ht, ht]

namespace Param

theorem fixedWidth_integerType (w : IntWidth) : (integerType w).fixedWidth = some w.bytes := by
  cases w <;> rfl

theorem integerWidth_integerType (w : IntWidth) :
    Binding.integerWidth (integerType w) = w.bytes := by
  rw [Binding.integerWidth, fixedWidth_integerType, Option.getD_some]

theorem integerType_ne_null (w : IntWidth) : integerType w ≠ .null := by
  cases w <;> nofun

/-! ### Dates and times -/

theorem reads_time {t : TimeOfDay} (h : (time t).Fits) :
    Reads (temporalReader .time) (time t).payload t.toWire := by
  have hvalid : TimeOfDay.valid t.hour t.minute t.second t.millisecond = true := h
  simp only [TimeOfDay.valid, Bool.and_eq_true, decide_eq_true_eq] at hvalid
  exact reads_encodeTime (by omega) (by omega) (by omega) (by omega)

theorem reads_dateTime {d : DateTime} (h : (dateTime d).Fits) :
    Reads (temporalReader .dateTime) (dateTime d).payload
      { d.toWire with kind := .dateTime } := by
  obtain ⟨hy, hmo, hd⟩ := validDate_lt h.1
  have htime := h.2
  simp only [TimeOfDay.valid, Bool.and_eq_true, decide_eq_true_eq] at htime
  exact reads_encodeDate_dateTime hy hmo hd (show d.time.hour < 256 by omega)
    (show d.time.minute < 256 by omega) (show d.time.second < 256 by omega)
    (show d.time.millisecond * 1000 < 2 ^ 32 by omega)

theorem date_toWire (d : DateTime) :
    ({ d.date.toWire with kind := .date } : WireTime) =
      { year := d.year, month := d.month, day := d.day, kind := .date } := by
  simp [DateTime.toWire, DateTime.date, TimeOfDay.toWire, TimeOfDay.midnight]

theorem reads_date {d : DateTime} (h : (date d).Fits) :
    Reads (temporalReader .date) (date d).payload { d.date.toWire with kind := .date } := by
  obtain ⟨hy, hmo, hd⟩ := validDate_lt h.1
  rw [payload, date_toWire]
  exact reads_encodeDate_date hy hmo hd

/-! ### Layouts -/

/-- The ways in which a value is kept in a binding and laid out in bytes. -/
inductive Layout (p : Param) : Prop
  | fixed (width : Nat)
    (hw : p.fieldType.fixedWidth = some width) (hlength : p.payload.length = width)
    (hbind : ∀ b, p.bind b = b.set p.fieldType (some p.payload) width p.isUnsigned)
  | bytes (data : Bytes)
    (hw : p.fieldType.fixedWidth = none) (ht : p.fieldType.isTemporal = false)
    (hunsigned : p.isUnsigned = false) (hpayload : p.payload = lenEncBytes data)
    (hlength : p.Fits → data.length < 2 ^ 64) (hbind : ∀ b, p.bind b = b.setBytes p.fieldType data)
  | temporal (t : WireTime)
    (ht : p.fieldType.isTemporal = true) (hpayload : p.payload = encodeTemporal p.fieldType t)
    (hreads : p.Fits → Reads (temporalReader p.fieldType) p.payload t)
    (hbind : ∀ b, p.bind b = b.setTime p.fieldType t)

/-- Every value that is not missing has a layout. -/
theorem layout {p : Param} (hp : p ≠ .null) : Layout p := by
  cases p with
  | signed w n =>
    refine .fixed w.bytes (fixedWidth_integerType w) (length_toLE _ _) fun b ↦ ?_
    rw [bind, Binding.setSigned, integerWidth_integerType]
    rfl
  | unsigned w n =>
    refine .fixed w.bytes (fixedWidth_integerType w) (length_toLE _ _) fun b ↦ ?_
    rw [bind, Binding.setUnsigned, integerWidth_integerType]
    rfl
  | boolean v =>
    refine .fixed 1 rfl rfl fun b ↦ ?_
    cases v
    · rfl
    · rfl
  | float bits => exact .fixed 4 rfl (length_toLE _ _) fun b ↦ rfl
  | double bits => exact .fixed 8 rfl (length_toLE _ _) fun b ↦ rfl
  | text s => exact .bytes (Text.encode s) rfl rfl rfl rfl id fun b ↦ rfl
  | blob bs => exact .bytes bs rfl rfl rfl rfl id fun b ↦ rfl
  | decimal d => exact .bytes (Text.encode d.text) rfl rfl rfl rfl False.elim fun b ↦ rfl
  | time t => exact .temporal t.toWire rfl rfl reads_time fun b ↦ rfl
  | dateTime d => exact .temporal _ rfl rfl reads_dateTime fun b ↦ rfl
  | date d => exact .temporal _ rfl rfl reads_date fun b ↦ rfl
  | null => exact absurd rfl hp

/-- The type of a binding is that of the value that was given to it last. -/
@[simp] theorem bind_fieldType (b : Binding) (p : Param) : (p.bind b).fieldType = p.fieldType := by
  cases p with
  | text s => exact (b.setBytes_spec _).1
  | blob bs => exact (b.setBytes_spec _).1
  | decimal d => exact (b.setBytes_spec _).1
  | _ => exact (b.set_spec _ _ _).1

@[simp] theorem bind_unsigned (b : Binding) (p : Param) : (p.bind b).unsigned = p.isUnsigned := by
  cases p with
  | text s => exact (b.setBytes_spec _).2
  | blob bs => exact (b.setBytes_spec _).2
  | decimal d => exact (b.setBytes_spec _).2
  | _ => exact (b.set_spec _ _ _).2.1

theorem fieldType_eq_null {p : Param} : p.fieldType = .null ↔ p = .null := by
  cases p with
  | signed w n => exact iff_of_false (integerType_ne_null w) nofun
  | unsigned w n => exact iff_of_false (integerType_ne_null w) nofun
  | null => exact iff_of_true rfl rfl
  | _ => exact iff_of_false nofun nofun

@[simp] theorem bind_isNull (b : Binding) (p : Param) : (p.bind b).isNull = (p == .null) := by
  cases p with
  | signed w n => exact (b.set_spec _ _ _).2.2.trans (by cases w <;> rfl)
  | unsigned w n => exact (b.set_spec _ _ _).2.2.trans (by cases w <;> rfl)
  | text s => rfl
  | blob bs => rfl
  | decimal d => rfl
  | _ => exact (b.set_spec _ _ _).2.2

/-- The bytes of a binding are those of the value that was given to it last. -/
theorem encodeValue_bind (b : Binding) {p : Param} (hp : p ≠ .null) :
    encodeValue (p.bind b) = p.payload := by
  cases layout hp with
  | fixed width hw hlength hbind =>
    rw [hbind]
    exact encodeValue_fixed b hw hlength (mt fieldType_eq_null.1 hp) _ _
  | bytes data hw ht _ hpayload _ hbind =>
    rw [hbind, hpayload]
    exact encodeValue_setBytes b hw ht data
  | temporal t ht hpayload _ hbind =>
    rw [hbind, hpayload]
    exact encodeValue_setTime b ht t

end Param

/-! ## Cells of rows -/

namespace Wire

variable {c : Column} {width : Nat}

theorem cellReader_fixed (b : Binding) (hw : c.fieldType.fixedWidth = some width)
    (hnull : c.fieldType ≠ .null) (hbit : c.fieldType ≠ .bit) :
    cellReader c b =
      do return b.set c.fieldType (some (← Reader.bytes width)) width c.isUnsigned := by
  unfold cellReader
  split
  · next h => exact absurd h hnull
  · next h => exact absurd h hbit
  · rw [hw]

theorem cellReader_temporal (b : Binding) (ht : c.fieldType.isTemporal = true) :
    cellReader c b = do return b.setTime c.fieldType (← temporalReader c.fieldType) := by
  have hw := FieldType.fixedWidth_of_isTemporal ht
  unfold cellReader
  split
  · next h => rw [h] at ht; cases ht
  · next h => rw [h] at ht; cases ht
  · rw [hw]
    dsimp only
    rw [if_pos ht]

theorem cellReader_bytes (b : Binding) (hw : c.fieldType.fixedWidth = none)
    (ht : c.fieldType.isTemporal = false) :
    cellReader c b = do
      let data := (← Reader.lenEncBytes).getD []
      return (b.set c.fieldType (some data) data.length c.isUnsigned).setIsNull false := by
  unfold cellReader
  split
  · next h => rw [h] at hw; cases hw
  · next h => rw [h] at hw; cases hw
  · rw [hw]
    dsimp only
    rw [if_neg (by rw [ht]; nofun)]

end Wire

namespace Param

theorem fieldType_ne_bit (p : Param) : p.fieldType ≠ .bit := by
  cases p with
  | signed w n => cases w <;> nofun
  | unsigned w n => cases w <;> nofun
  | _ => nofun

/-- A cell with the bytes of a value is decoded as if the value were given to its binding. -/
theorem reads_cell {c : Column} (b : Binding) {p : Param} (hp : p ≠ .null) (hfits : p.Fits)
    (htype : c.fieldType = p.fieldType) (hunsigned : c.isUnsigned = p.isUnsigned) :
    Reads (cellReader c b) p.payload (p.bind b) := by
  cases layout hp with
  | fixed width hw hlength hbind =>
    have hnull := mt fieldType_eq_null.1 hp
    rw [cellReader_fixed b (htype ▸ hw) (htype ▸ hnull) (htype ▸ fieldType_ne_bit p), htype,
      hunsigned, hbind]
    exact (reads_bytes hlength).map fun data ↦ b.set p.fieldType (some data) width p.isUnsigned
  | bytes data hw ht hsigned hpayload hlength hbind =>
    rw [cellReader_bytes b (htype ▸ hw) (htype ▸ ht), htype, hunsigned, hsigned, hpayload, hbind]
    exact (reads_lenEncBytes (hlength hfits)).map fun data ↦
      (b.set p.fieldType (some (data.getD [])) (data.getD []).length false).setIsNull false
  | temporal t ht _ hreads hbind =>
    rw [cellReader_temporal b (htype ▸ ht), htype, hbind]
    exact (hreads hfits).map (b.setTime p.fieldType)

end Param

end MariaClient
