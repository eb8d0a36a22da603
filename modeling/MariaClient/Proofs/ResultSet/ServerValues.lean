import MariaClient.Proofs.ResultSet.Cursor
import MariaClient.Proofs.Temporal.ServerText
import MariaClient.Proofs.Wire.Cells

/-!
# Dates and times in texts and in packets

A row of a query shows a date or a time as a text, and a row of a prepared statement carries it in
bytes.  `ResultSet.text_packet_agree` says that the accessors of dates and times give the same for
both, and for which values they do not: the sign of a length of time is refused in a text and
overlooked in a packet.
-/

namespace MariaClient

open Temporal Calendar Wire Text

namespace Temporal.ServerValue

variable {v : ServerValue}

/-- The bytes in which packets carry a value. -/
def Encodes : ServerValue → Bytes → Prop
  | date d => DateEncoding d.year d.month d.day 0 0 0 0
  | dateTime d c _ => DateEncoding d.year d.month d.day c.hour c.minute c.second c.microsecond
  | time negative c _ => TimeEncoding negative c.hour c.minute c.second c.microsecond

theorem dateKind_of_mem {fieldType : FieldType} (h : fieldType ∈ v.fieldTypes)
    (hkind : v.wire.kind ≠ .time) : fieldType ≠ .time ∧ dateKind fieldType = v.wire.kind := by
  cases v with
  | time => exact absurd rfl hkind
  | _ =>
    rcases List.mem_pair.1 h with rfl | rfl
    · exact ⟨nofun, rfl⟩
    · exact ⟨nofun, rfl⟩

/-- The bytes of a value are read as that value in a column of any of its types. -/
theorem Encodes.reads {data : Bytes} (h : v.Encodes data) {fieldType : FieldType}
    (htype : fieldType ∈ v.fieldTypes) : Reads (temporalReader fieldType) data v.wire := by
  cases v with
  | date d =>
    obtain ⟨hyear, hmonth, hday⟩ := d.fits
    obtain ⟨hdate, hkind⟩ := dateKind_of_mem htype nofun
    have hzero : 0 < 256 := Nat.succ_pos 255
    have hread := DateEncoding.reads hdate h hyear hmonth hday hzero hzero hzero
      (Nat.two_pow_pos 32)
    rwa [hkind] at hread
  | dateTime d c hour_lt =>
    obtain ⟨hyear, hmonth, hday⟩ := d.fits
    obtain ⟨-, hminute, hsecond, hmicrosecond⟩ := c.fits
    obtain ⟨hdate, hkind⟩ := dateKind_of_mem htype nofun
    have hread := DateEncoding.reads hdate h hyear hmonth hday
      (Nat.lt_trans hour_lt (by decide)) hminute hsecond hmicrosecond
    rwa [hkind] at hread
  | time negative c signed =>
    obtain ⟨hhour, hminute, hsecond, hmicrosecond⟩ := c.fits
    obtain rfl := List.mem_singleton.1 htype
    exact TimeEncoding.reads h hhour hminute hsecond hmicrosecond

/-- The type in which the columns of a value are read. -/
def valueType : ServerValue → ValueType
  | date _ => .date
  | dateTime .. => .dateTime
  | time .. => .time

/-- The accessor of the type of a value. -/
def accessor : ServerValue → Accessor
  | date _ => .date
  | dateTime .. => .dateTime
  | time .. => .time

/-- What the accessor makes of the value that a packet carries. -/
def reading (v : ServerValue) : Except Error Reading :=
  match v with
  | date _ => (DateTime.ofWire v.wire).map fun d ↦ .dateTime d.date
  | dateTime .. => (DateTime.ofWire v.wire).map .dateTime
  | time .. => (TimeOfDay.ofWire v.wire).map .time

/-- What a caller can be given: a date that exists, and a time of day without a sign, to the
millisecond. -/
def value? : ServerValue → Option Reading
  | date d =>
    if validDate d.year d.month d.day then some (.dateTime (d.withTime .midnight)) else none
  | dateTime d c _ =>
    if validDate d.year d.month d.day then some (.dateTime (d.withTime c.timeOfDay)) else none
  | time negative c _ => if !negative && c.hour < 24 then some (.time c.timeOfDay) else none

/-- The value without its sign. -/
def unsigned : ServerValue → ServerValue
  | date d => date d
  | dateTime d c hour_lt => dateTime d c hour_lt
  | time _ c _ => time false c nofun

/-- A length of time with a sign that is shorter than a day. -/
def IsNegativeTimeOfDay : ServerValue → Prop
  | time negative c _ => negative = true ∧ c.hour < 24
  | _ => False

theorem toOption_map {α β : Type} (f : α → β) (r : Except Error α) :
    (r.map f).toOption = r.toOption.map f := by
  cases r with
  | error e => rfl
  | ok a => rfl

/-- A packet is read without the sign of its value. -/
theorem toOption_reading (v : ServerValue) : v.reading.toOption = v.unsigned.value? := by
  cases v with
  | date d =>
    have hread : (date d).reading =
        (DateTime.of d.year d.month d.day 0 0 0 (0 / 1000)).map fun d ↦ .dateTime d.date := rfl
    have hvalid : TimeOfDay.valid 0 0 0 0 = true := rfl
    rw [hread, Nat.zero_div, toOption_map, DateTime.toOption_of, hvalid, Bool.and_true, unsigned,
      value?]
    split
    · rfl
    · rfl
  | dateTime d c hour_lt =>
    have hread : (dateTime d c hour_lt).reading =
        (DateTime.of d.year d.month d.day c.hour c.minute c.second (c.microsecond / 1000)).map
          .dateTime := rfl
    rw [hread, toOption_map, DateTime.toOption_of, c.valid, decide_eq_true hour_lt, Bool.and_true,
      unsigned, value?]
    split
    · rfl
    · rfl
  | time negative c signed =>
    have hread : (time negative c signed).reading =
        (TimeOfDay.of c.hour c.minute c.second (c.microsecond / 1000)).map .time := rfl
    rw [hread, toOption_map, TimeOfDay.toOption_of, c.valid, unsigned, value?, Bool.not_false,
      Bool.true_and]
    split
    · rfl
    · rfl

/-- The sign matters for a length of time that would be a time of day without it. -/
theorem value?_eq_unsigned_iff (v : ServerValue) :
    v.value? = v.unsigned.value? ↔ ¬ v.IsNegativeTimeOfDay := by
  cases v with
  | time negative c signed =>
    cases negative with
    | false => exact iff_of_true rfl fun h ↦ Bool.false_ne_true h.1
    | true =>
      have hsigned : (time true c signed).value? = none := rfl
      rw [hsigned]
      by_cases hday : c.hour < 24
      · have hunsigned : (time true c signed).unsigned.value? = some (.time c.timeOfDay) :=
          if_pos (decide_eq_true hday)
        rw [hunsigned]
        exact iff_of_false nofun (not_not_intro ⟨rfl, hday⟩)
      · have hunsigned : (time true c signed).unsigned.value? = none :=
          if_neg (mt of_decide_eq_true hday)
        rw [hunsigned]
        exact iff_of_true rfl fun h ↦ hday h.2
  | _ => exact iff_of_true rfl not_false

theorem unsigned_of_not_negative (h : v.wire.negative = false) : v.unsigned = v := by
  cases v with
  | time negative c signed =>
    obtain rfl : negative = false := h
    rfl
  | _ => rfl

theorem value?_of_negative (h : v.wire.negative = true) : v.value? = none := by
  cases v with
  | time negative c signed =>
    obtain rfl : negative = true := h
    rfl
  | _ => cases h

theorem IsNegativeTimeOfDay.accessor_eq (h : v.IsNegativeTimeOfDay) : v.accessor = .time := by
  cases v with
  | time negative c signed => rfl
  | _ => exact h.elim

theorem isTemporal {fieldType : FieldType} (h : fieldType ∈ v.fieldTypes) :
    fieldType.isTemporal = true := by
  cases v with
  | time =>
    obtain rfl := List.mem_singleton.1 h
    rfl
  | _ =>
    rcases List.mem_pair.1 h with rfl | rfl
    · rfl
    · rfl

theorem valueType_eq {c : Column} (h : c.fieldType ∈ v.fieldTypes) : c.valueType = v.valueType := by
  rw [Column.valueType]
  cases v with
  | time =>
    rw [List.mem_singleton.1 h]
    rfl
  | _ =>
    rcases List.mem_pair.1 h with htype | htype
    · rw [htype]
      rfl
    · rw [htype]
      rfl

end Temporal.ServerValue

namespace ResultSet

variable {v : ServerValue} {rs : ResultSet} {row n : Nat} {ref : ColumnRef} {c : Column}
  {b : Binding}

/-! ## Rows that hold a value -/

/-- The cell of a column in a row of texts. -/
theorem cell_text {rows : List (List (Option Bytes))} {cells : List (Option Bytes)} {bs : Bytes}
    (hrows : rs.rows = .text rows) (hposition : rs.position = some row)
    (hrow : rows[row]? = some cells) (hcell : cells[n]? = some (some bs)) :
    rs.cell n = .ok (.text bs) := by
  have hindex : rs.rowIndex = some row := by
    rw [rowIndex, hposition, rowCount, hrows]
    exact if_pos (decide_eq_true (List.getElem?_eq_some_iff.1 hrow).1)
  simp only [cell, hindex, hrows, List.getD_eq_getElem?_getD, hrow, hcell, Option.getD_some]

/-- A row of a query shows a value in the column that a caller names. -/
inductive ShownAt (v : ServerValue) (rs : ResultSet) (row : Nat) (ref : ColumnRef) : Prop
  | intro {rows : List (List (Option Bytes))} {cells : List (Option Bytes)} {n : Nat} {c : Column}
    {text : List Char} (hrows : rs.rows = .text rows) (hrow : rows[row]? = some cells)
    (hcolumn : rs.column ref = .ok (n, c)) (htype : c.fieldType ∈ v.fieldTypes)
    (hcell : cells[n]? = some (some (encode (String.ofList text)))) (hshows : v.Shows text)

/-- A row of a prepared statement carries a value in the column that a caller names.  Its other
cells are whatever can be read. -/
inductive CarriedAt (v : ServerValue) (rs : ResultSet) (row : Nat) (ref : ColumnRef) : Prop
  | intro {packets : List Bytes} {bindings : List Binding} {cells : List (Option Bytes)} {n : Nat}
    {c : Column} {data : Bytes} (hrows : rs.rows = .binary packets bindings)
    (hbindings : bindings.length = rs.columns.length) (hrow : packets[row]? = some (cellRow cells))
    (hcells : List.Forall₂ IsCell rs.columns cells) (hcolumn : rs.column ref = .ok (n, c))
    (htype : c.fieldType ∈ v.fieldTypes) (hcell : cells[n]? = some (some data))
    (hencodes : v.Encodes data)

theorem isCell_of_encodes {data : Bytes} (htype : c.fieldType ∈ v.fieldTypes)
    (h : v.Encodes data) : IsCell c (some data) := by
  intro b
  exact ⟨_, reads_cell_temporal (ServerValue.isTemporal htype) (h.reads htype) b⟩

/-- A move to a row that can be loaded. -/
theorem Move.apply_loaded {m : Move} {rs' : ResultSet} (hrow : m.row rs < rs.rowCount)
    (hload : rs.load (m.row rs) = (.ok (), rs')) : m.apply rs = (.ok true, rs') := by
  rw [m.apply_eq, if_pos hrow, hload]
  rfl

/-- A move to a row of texts. -/
theorem Move.apply_text {m : Move} {rows : List (List (Option Bytes))} {cells : List (Option Bytes)}
    (hrows : rs.rows = .text rows) (hrow : rows[m.row rs]? = some cells) :
    m.apply rs = (.ok true, { rs with position := some (m.row rs) }) := by
  have hcount : m.row rs < rs.rowCount := by
    rw [rowCount, hrows]
    exact (List.getElem?_eq_some_iff.1 hrow).1
  exact Move.apply_loaded hcount (by rw [load, hrows])

/-- A move to a packet that can be decoded. -/
theorem Move.apply_packet {m : Move} {packets : List Bytes} {packet : Bytes}
    {bindings bindings' : List Binding} (hrows : rs.rows = .binary packets bindings)
    (hrow : packets[m.row rs]? = some packet)
    (hdecode : decodeRow packet rs.columns bindings = (.ok (), bindings')) :
    m.apply rs =
      (.ok true, { rs with rows := .binary packets bindings', position := some (m.row rs) }) := by
  have hcount : m.row rs < rs.rowCount := by
    rw [rowCount, hrows]
    exact (List.getElem?_eq_some_iff.1 hrow).1
  refine Move.apply_loaded hcount ?_
  simp only [load, hrows, List.getD_eq_getElem?_getD, hrow, Option.getD_some, hdecode]

/-- A move to a row that shows a value finds the value. -/
theorem ShownAt.moved {m : Move} (h : ShownAt v rs (m.row rs) ref) :
    ∃ rs' n c text, m.apply rs = (.ok true, rs') ∧ rs'.column ref = .ok (n, c) ∧
      c.fieldType ∈ v.fieldTypes ∧ rs'.cell n = .ok (.text (encode (String.ofList text))) ∧
      v.Shows text := by
  obtain @⟨rows, cells, n, c, text, hrows, hrow, hcolumn, htype, hcell, hshows⟩ := h
  refine ⟨_, n, c, text, Move.apply_text hrows hrow, ?_, htype, ?_, hshows⟩
  · exact (column_congr rfl).trans hcolumn
  · exact cell_text hrows rfl hrow hcell

/-- A move to a row that carries a value finds the value. -/
theorem CarriedAt.moved {m : Move} (h : CarriedAt v rs (m.row rs) ref) :
    ∃ rs' n c b, m.apply rs = (.ok true, rs') ∧ rs'.column ref = .ok (n, c) ∧
      c.fieldType ∈ v.fieldTypes ∧ rs'.cell n = .ok (.bound b) ∧ b.time = v.wire := by
  obtain @⟨packets, bindings, cells, n, c, data, hrows, hbindings, hrow, hcells, hcolumn, htype,
    hcell, hencodes⟩ := h
  obtain ⟨bindings', hdecode, htaken⟩ := decodeRow_cellRow hcells hbindings
  obtain ⟨b, hb, hpresent, htime⟩ := htaken.temporal (getElem?_of_column hcolumn) hcell
    (ServerValue.isTemporal htype) (hencodes.reads htype)
  have hlt : m.row rs < packets.length := (List.getElem?_eq_some_iff.1 hrow).1
  refine ⟨_, n, c, b, Move.apply_packet hrows hrow hdecode, ?_, htype, ?_, htime⟩
  · exact (column_congr rfl).trans hcolumn
  · rw [cell_binary rfl rfl hlt hb, hpresent]
    rfl

/-! ## Reading a value -/

/-- The accessors of dates and times. -/
def temporalAccessors : List Accessor :=
  [.date, .dateTime, .time]

/-- The type that an accessor of dates and times asks for. -/
def requestedType : Accessor → ValueType
  | .date => .date
  | .dateTime => .dateTime
  | _ => .time

section Typed

variable {requested : ValueType} {bs : Bytes} {e : Error}

theorem typed_mismatched (hcolumn : rs.column ref = .ok (n, c))
    (h : requested.compatible c.valueType = false) :
    rs.typed ref requested = .error (.typeMismatch requested c.valueType) := by
  have hcheck : checkType requested c.valueType = .error (.typeMismatch requested c.valueType) :=
    if_neg (by rw [h]; exact Bool.false_ne_true)
  refine (bind_ok hcolumn _).trans ?_
  dsimp only
  rw [hcheck]
  rfl

theorem temporal_of_text (h : rs.typed ref requested = .ok (n, c, .text bs)) :
    rs.temporal ref requested = DateTime.parse (serverFraction (decode bs)) :=
  bind_ok h _

theorem getTime_of_text (h : rs.typed ref .time = .ok (n, c, .text bs)) :
    rs.getTime ref = TimeOfDay.parse (serverFraction (decode bs)) :=
  bind_ok h _

theorem read_date_of_temporal {d : Except Error DateTime} (h : rs.temporal ref .date = d) :
    rs.read ref .date = d.map fun d ↦ .dateTime d.date := by
  rw [read, getDate, h]
  cases d with
  | error e => rfl
  | ok d => rfl

end Typed

theorem read_of_typed_error {x : Accessor} {e : Error} (hx : x ∈ temporalAccessors)
    (h : rs.typed ref (requestedType x) = .error e) : (rs.read ref x).toOption = none := by
  rcases List.mem_cons.1 hx with rfl | hx
  · have htemporal : rs.temporal ref .date = .error e := by
      rw [temporal, show rs.typed ref .date = _ from h]
      rfl
    rw [read_date_of_temporal htemporal]
    rfl
  rcases List.mem_pair.1 hx with rfl | rfl
  · rw [read, getDateTime, temporal, show rs.typed ref .dateTime = _ from h]
    rfl
  · rw [read, getTime, show rs.typed ref .time = _ from h]
    rfl

/-- A value is not read by the accessor of another type. -/
theorem read_mismatched (hcolumn : rs.column ref = .ok (n, c)) (htype : c.fieldType ∈ v.fieldTypes)
    {x : Accessor} (hx : x ∈ temporalAccessors) (hne : x ≠ v.accessor) :
    (rs.read ref x).toOption = none := by
  have hcompatible : (requestedType x).compatible v.valueType = false := by
    rcases List.mem_cons.1 hx with rfl | hx
    · cases v with
      | date d => exact absurd rfl hne
      | _ => rfl
    rcases List.mem_pair.1 hx with rfl | rfl
    · cases v with
      | dateTime d c hour_lt => exact absurd rfl hne
      | _ => rfl
    · cases v with
      | time negative c signed => exact absurd rfl hne
      | _ => rfl
  rw [← ServerValue.valueType_eq htype] at hcompatible
  exact read_of_typed_error hx (typed_mismatched hcolumn hcompatible)

theorem typed_value {cell : Cell} (hcolumn : rs.column ref = .ok (n, c))
    (htype : c.fieldType ∈ v.fieldTypes) (hcell : rs.cell n = .ok cell) :
    rs.typed ref v.valueType = .ok (n, c, cell) :=
  typed_of_column hcolumn (by rw [ServerValue.valueType_eq htype, ValueType.compatible_self]) hcell

/-- An accessor gives for a binding what a packet carries. -/
theorem read_bound_value (hcolumn : rs.column ref = .ok (n, c))
    (htype : c.fieldType ∈ v.fieldTypes) (hcell : rs.cell n = .ok (.bound b))
    (htime : b.time = v.wire) : rs.read ref v.accessor = v.reading := by
  have htyped := typed_value hcolumn htype hcell
  cases v with
  | date d =>
    have htemporal := temporal_of_bound htyped
    rw [htime] at htemporal
    exact read_date_of_temporal htemporal
  | dateTime d c hour_lt =>
    have htemporal := temporal_of_bound htyped
    rw [htime] at htemporal
    exact congrArg (Except.map Reading.dateTime) htemporal
  | time negative c signed =>
    have hget := getTime_of_bound htyped
    rw [htime] at hget
    exact congrArg (Except.map Reading.time) hget

/-- An accessor gives for a text what a packet carries, unless the value has a sign. -/
theorem read_shown_value {text : List Char} (hcolumn : rs.column ref = .ok (n, c))
    (htype : c.fieldType ∈ v.fieldTypes)
    (hcell : rs.cell n = .ok (.text (encode (String.ofList text)))) (hshows : v.Shows text)
    (hsign : v.wire.negative = false) : rs.read ref v.accessor = v.reading := by
  have htyped := typed_value hcolumn htype hcell
  cases v with
  | date d =>
    have htemporal := temporal_of_text htyped
    rw [decode_encode, hshows.parse_dateTime nofun] at htemporal
    exact read_date_of_temporal htemporal
  | dateTime d c hour_lt =>
    have htemporal := temporal_of_text htyped
    rw [decode_encode, hshows.parse_dateTime nofun] at htemporal
    exact congrArg (Except.map Reading.dateTime) htemporal
  | time negative c signed =>
    obtain rfl : negative = false := hsign
    have hget := getTime_of_text htyped
    rw [decode_encode, hshows.parse_time] at hget
    exact congrArg (Except.map Reading.time) hget

/-- A text with a sign is not read. -/
theorem read_shown_negative {text : List Char} (hcolumn : rs.column ref = .ok (n, c))
    (htype : c.fieldType ∈ v.fieldTypes)
    (hcell : rs.cell n = .ok (.text (encode (String.ofList text)))) (hshows : v.Shows text)
    (hsign : v.wire.negative = true) : (rs.read ref v.accessor).toOption = none := by
  have htyped := typed_value hcolumn htype hcell
  cases v with
  | date d => cases hsign
  | dateTime d c hour_lt => cases hsign
  | time negative c signed =>
    obtain rfl : negative = true := hsign
    obtain ⟨e, hparse⟩ := hshows.parse_negative
    have hget := getTime_of_text htyped
    rw [decode_encode, hparse] at hget
    rw [ServerValue.accessor, read, hget]
    rfl

/-- A row of a query shows a date or a time, and a row of a prepared statement carries the same.
Then both rows can be gone to, by whichever moves.  The text is read as the value if this can be
given to a caller, and the packet is read as the value without its sign.  So every accessor of dates
and times gives the same value for both or fails for both, with one exception: a length of time with
a sign that is shorter than a day is refused as a text, and given without its sign from a packet. -/
theorem text_packet_agree {v : ServerValue} {ts bs : ResultSet} (m m' : Move) {p q : ColumnRef}
    (hshown : ShownAt v ts (m.row ts) p) (hcarried : CarriedAt v bs (m'.row bs) q) :
    ∃ ts' bs', m.apply ts = (.ok true, ts') ∧ m'.apply bs = (.ok true, bs') ∧
      (ts'.read p v.accessor).toOption = v.value? ∧
      (bs'.read q v.accessor).toOption = v.unsigned.value? ∧
      ∀ x ∈ temporalAccessors, (ts'.read p x).toOption = (bs'.read q x).toOption ↔
        ¬ (x = .time ∧ v.IsNegativeTimeOfDay) := by
  obtain ⟨ts', n, c, text, hmove, hcolumn, htype, hcell, hshows⟩ := hshown.moved
  obtain ⟨bs', n', d, b, hmove', hcolumn', htype', hcell', htime⟩ := hcarried.moved
  have hpacket : (bs'.read q v.accessor).toOption = v.unsigned.value? := by
    rw [read_bound_value hcolumn' htype' hcell' htime, ServerValue.toOption_reading]
  have htext : (ts'.read p v.accessor).toOption = v.value? := by
    cases hsign : v.wire.negative with
    | false =>
      rw [read_shown_value hcolumn htype hcell hshows hsign, ServerValue.toOption_reading,
        ServerValue.unsigned_of_not_negative hsign]
    | true =>
      rw [read_shown_negative hcolumn htype hcell hshows hsign,
        ServerValue.value?_of_negative hsign]
  refine ⟨ts', bs', hmove, hmove', htext, hpacket, ?_⟩
  intro x hx
  by_cases hne : x = v.accessor
  · subst hne
    rw [htext, hpacket, ServerValue.value?_eq_unsigned_iff]
    exact not_congr (and_iff_right_of_imp fun h ↦ h.accessor_eq).symm
  · rw [read_mismatched hcolumn htype hx hne, read_mismatched hcolumn' htype' hx hne]
    refine iff_of_true rfl ?_
    rintro ⟨htime, hnegative⟩
    exact hne (htime.trans hnegative.accessor_eq.symm)

/-- The last day of February of 2024 at 13:37:42 and a half. -/
def leapDay : ServerValue :=
  .dateTime { year := 2024, month := 2, day := 29 }
    { hour := 13, minute := 37, second := 42, microsecond := 500000 } (by decide)

/-- The bytes of the leap day with all its fields. -/
def leapDayBytes : Bytes :=
  [11, 232, 7, 2, 29, 13, 37, 42, 32, 161, 7, 0]

/-- The leap day as a caller is given it. -/
def leapDayReading : Reading :=
  .dateTime
    { year := 2024, month := 2, day := 29,
      time := { hour := 13, minute := 37, second := 42, millisecond := 500 } }

/-- Two digits of the fraction are shown, and the packet has a missing cell too. -/
theorem text_packet_agree_leapDay :
    let ts := ofText [{ name := "t", fieldType := .timestamp }]
      [[some (encode "2024-02-29 13:37:42.50")]]
    let bs := ofBinary
      [{ name := "n", fieldType := .long }, { name := "t", fieldType := .dateTime }]
      [cellRow [none, some leapDayBytes]]
    ShownAt leapDay ts 0 (.index 0) ∧ CarriedAt leapDay bs 0 (.name "t") ∧
      ∃ ts' bs', ts.next = (.ok true, ts') ∧ bs.seek 0 = (.ok true, bs') ∧
        (ts'.read (.index 0) .dateTime).toOption = some leapDayReading ∧
        (bs'.read (.name "t") .dateTime).toOption = some leapDayReading := by
  intro ts bs
  have hfraction : ShowsFraction 500000 ['5', '0'] := ⟨4, by rfl⟩
  have hshows : leapDay.Shows (Reader.dateText 2024 2 29 ++
      ' ' :: (Reader.clockText 13 37 42 ++ Reader.fractionText ['5', '0'])) :=
    .dateTime _ _ _ hfraction
  have htext : "2024-02-29 13:37:42.50" = String.ofList (Reader.dateText 2024 2 29 ++
      ' ' :: (Reader.clockText 13 37 42 ++ Reader.fractionText ['5', '0'])) := by rfl
  have hencodes : leapDay.Encodes leapDayBytes := DateEncoding.microseconds
  have hshown : ShownAt leapDay ts 0 (.index 0) :=
    .intro rfl rfl rfl (List.mem_cons_of_mem _ List.mem_cons_self)
      (congrArg (fun s ↦ some (some (encode s))) htext) hshows
  have hcarried : CarriedAt leapDay bs 0 (.name "t") :=
    .intro rfl rfl rfl (.cons trivial (.cons (isCell_of_encodes List.mem_cons_self hencodes) .nil))
      rfl List.mem_cons_self rfl hencodes
  obtain ⟨ts', bs', hmove, hmove', htext', hpacket, -⟩ :=
    text_packet_agree .next (.seek 0) hshown hcarried
  exact ⟨hshown, hcarried, ts', bs', hmove, hmove', htext', hpacket⟩

/-- An hour, two minutes and three seconds with a sign. -/
def pastHour : ServerValue :=
  .time true { hour := 1, minute := 2, second := 3, microsecond := 0 }
    (fun _ h ↦ Nat.one_ne_zero h.1)

/-- The text of a length of time with a sign is refused, and the packet is read as the time of day
without it. -/
theorem text_packet_differ_pastHour :
    let ts := ofText [{ name := "t", fieldType := .time }] [[some (encode "-01:02:03")]]
    let bs := ofBinary [{ name := "t", fieldType := .time }]
      [cellRow [some [8, 1, 0, 0, 0, 0, 1, 2, 3]]]
    ShownAt pastHour ts 0 (.index 0) ∧ CarriedAt pastHour bs 0 (.index 0) ∧
      ts.next.1 = .ok true ∧ bs.next.1 = .ok true ∧
      ts.next.2.read (.index 0) .time = .error (.format .time "-01:02:03") ∧
      bs.next.2.read (.index 0) .time = .ok (.time { hour := 1, minute := 2, second := 3 }) := by
  intro ts bs
  have hfraction : ShowsFraction 0 [] := ⟨6, by rfl⟩
  have hshows : pastHour.Shows ('-' :: (Reader.clockText 1 2 3 ++ Reader.fractionText [])) :=
    .time true _ _ hfraction
  have hencodes : pastHour.Encodes [8, 1, 0, 0, 0, 0, 1, 2, 3] := TimeEncoding.seconds
  have htype : FieldType.time ∈ pastHour.fieldTypes := List.mem_cons_self
  have htext : "-01:02:03" =
      String.ofList ('-' :: (Reader.clockText 1 2 3 ++ Reader.fractionText [])) := by rfl
  refine ⟨.intro rfl rfl rfl htype (congrArg (fun s ↦ some (some (encode s))) htext) hshows,
    .intro rfl rfl rfl (.cons (isCell_of_encodes htype hencodes) .nil) rfl htype rfl hencodes,
    rfl, ?_, ?_, ?_⟩
  · decide +kernel
  · decide +kernel
  · decide +kernel

end ResultSet

end MariaClient
