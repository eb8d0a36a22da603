import MariaClient.Proofs.Decimal.Printed
import MariaClient.Proofs.ResultSet.ServerValues
import MariaClient.Proofs.Wire.RowLayout

/-!
# Cells that cannot be read

A date, a time or a decimal that no caller can be given is shown as a text instead.
`ResultSet.getValue_unread` says which text that is: the one in which the server shows the value,
by which the value can be told from every other, as far as the row has a text at all.  The row of a
prepared statement has none for a date or a time, whose numbers stand in the packet, and nothing is
left of these.
-/

namespace MariaClient

open Temporal Wire Text

/-! ## Decimals of servers -/

namespace Decimal

/-- A decimal that a server can hold.  It may have more digits than there is room for, and zero has
no sign. -/
structure ServerNumber where
  negative : Bool
  magnitude : Nat
  scale : Nat
  signed : negative = true → magnitude ≠ 0

/-- The texts in which a server shows a decimal.  Behind the point are as many digits as its column
has, and zeros may stand in front. -/
inductive ServerNumber.Shows (n : ServerNumber) : List Char → Prop
  | intro {whole fraction : List Char} (hne : whole ≠ []) (hw : ∀ c ∈ whole, c.isDigit = true)
    (hf : ∀ c ∈ fraction, c.isDigit = true)
    (hvalue : Text.value (whole ++ fraction) = n.magnitude) (hscale : fraction.length = n.scale) :
    Shows n (written n.negative whole fraction)

/-- The sign and the digits of a number are told by its text. -/
theorem written_inj {negative negative' : Bool} {whole whole' fraction fraction' : List Char}
    (hne : whole ≠ []) (hw : ∀ c ∈ whole, c.isDigit = true)
    (hf : ∀ c ∈ fraction, c.isDigit = true) (hne' : whole' ≠ [])
    (hw' : ∀ c ∈ whole', c.isDigit = true) (hf' : ∀ c ∈ fraction', c.isDigit = true)
    (h : written negative whole fraction = written negative' whole' fraction') :
    negative = negative' ∧ whole = whole' ∧ fraction = fraction' := by
  have hsign := (numeral negative whole fraction hne hw hf).splitSign_chars
  rw [chars_numeral, h, ← chars_numeral hne' hw' hf', Numeral.splitSign_chars] at hsign
  obtain ⟨hnegative, hbody⟩ := Prod.mk.inj hsign
  have hpoint := (numeral negative whole fraction hne hw hf).splitPoint_body
  rw [← hbody, Numeral.splitPoint_body, fraction_numeral, fraction_numeral] at hpoint
  obtain ⟨hwhole, hfraction⟩ := Prod.mk.inj hpoint
  refine ⟨?_, hwhole.symm, hfraction.symm⟩
  cases negative <;> cases negative' <;> first | rfl | cases hnegative

/-- A text shows one decimal only. -/
theorem ServerNumber.Shows.unique {n n' : ServerNumber} {text : List Char} (h : n.Shows text)
    (h' : n'.Shows text) : n = n' := by
  cases h with
  | @intro whole fraction hne hw hf hvalue hscale =>
    generalize htext : written n.negative whole fraction = text at h'
    cases h' with
    | intro hne' hw' hf' hvalue' hscale' =>
      obtain ⟨hnegative, rfl, rfl⟩ := written_inj hne hw hf hne' hw' hf' htext
      cases n
      cases n'
      cases hnegative
      cases hvalue
      cases hvalue'
      cases hscale
      cases hscale'
      rfl

end Decimal

/-! ## Values -/

open Decimal

/-- A value of a server that its client may be unable to read. -/
inductive ServerCell
  | temporal (v : ServerValue)
  | decimal (n : ServerNumber)

namespace ServerCell

/-- The types of the columns that hold a value. -/
def fieldTypes : ServerCell → List FieldType
  | temporal v => v.fieldTypes
  | decimal _ => [.decimal, .newDecimal]

/-- The type in which the columns of a value are read. -/
def valueType : ServerCell → ValueType
  | temporal v => v.valueType
  | decimal _ => .decimal

/-- The accessor of the type of a value. -/
def accessor : ServerCell → Accessor
  | temporal v => v.accessor
  | decimal _ => .decimal

/-- The texts in which a server shows a value. -/
def Shows : ServerCell → List Char → Prop
  | temporal v => v.Shows
  | decimal n => n.Shows

variable {v w : ServerCell} {text : List Char} {c : Column}

theorem valueType_eq (h : c.fieldType ∈ v.fieldTypes) : c.valueType = v.valueType := by
  cases v with
  | temporal v => exact ServerValue.valueType_eq h
  | decimal n =>
    rw [Column.valueType]
    rcases List.mem_pair.1 h with htype | htype
    · rw [htype]
      rfl
    · rw [htype]
      rfl

theorem fieldType_ne_null (h : c.fieldType ∈ v.fieldTypes) : c.fieldType ≠ .null := by
  intro hnull
  have htype := valueType_eq h
  rw [Column.valueType, hnull] at htype
  rcases v with (_ | _ | _) | _
  all_goals cases htype

theorem kind_eq {v w : ServerValue} (h : v.valueType = w.valueType) :
    v.wire.kind = w.wire.kind := by
  cases v <;> cases w <;> first | rfl | cases h

/-- A text shows one value of a type only. -/
theorem Shows.unique (hv : v.Shows text) (hw : w.Shows text) (htype : v.valueType = w.valueType) :
    v = w := by
  cases v with
  | temporal v =>
    cases w with
    | temporal w => exact congrArg temporal (ServerValue.Shows.unique hv hw (kind_eq htype))
    | decimal n => cases v <;> cases htype
  | decimal n =>
    cases w with
    | temporal w => cases w <;> cases htype
    | decimal n' => exact congrArg decimal (ServerNumber.Shows.unique hv hw)

end ServerCell

/-! ## What a server sends -/

/-- A cell that a server sends, in a row of a query or in a row of a prepared statement. -/
inductive Sent
  | text (bs : Bytes)
  | packed (cell : RowCell)

namespace Sent

/-- The bytes from which a text of the cell can be made.  A date or a time in a packet has none. -/
def bytes : Sent → Bytes
  | text bs => bs
  | packed cell => RowCell.data (some cell)

/-- Whether the cell has a text. -/
def hasText : Sent → Bool
  | packed (.date _) | packed (.time _) => false
  | _ => true

/-- How a value is sent that has a text.  The packets of decimals have the text, and those of dates
and times have the numbers that it shows. -/
inductive Tells (v : ServerCell) (text : List Char) : Sent → Prop
  | shown : Tells v text (.text (encode (String.ofList text)))
  | decimal {n : ServerNumber} (hv : v = .decimal n) :
    Tells v text (.packed (.bytes (encode (String.ofList text))))
  | date {t : ServerValue} {d : DateCell} (hv : v = .temporal t)
    (hvalue : d.value t.wire.kind = t.wire) : Tells v text (.packed (.date d))
  | time {t : ServerValue} {c : TimeCell} (hv : v = .temporal t) (hvalue : c.value = t.wire) :
    Tells v text (.packed (.time c))

variable {v : ServerCell} {text : List Char} {x : Sent}

/-- A text is left of a cell if it has one. -/
theorem Tells.decode_bytes (h : x.Tells v text) :
    Text.decode x.bytes = if x.hasText then String.ofList text else "" := by
  cases h with
  | shown => exact decode_encode _
  | decimal hv => exact decode_encode _
  | date hv hvalue => rfl
  | time hv hvalue => rfl

/-- Of dates and times only the rows of queries have texts. -/
theorem Tells.eq_text {t : ServerValue} (h : x.Tells (.temporal t) text)
    (htext : x.hasText = true) : x = .text (encode (String.ofList text)) := by
  cases h with
  | shown => rfl
  | decimal hv => cases hv
  | date hv hvalue => cases htext
  | time hv hvalue => cases htext

end Sent

namespace ResultSet

variable {v w : ServerCell} {text : List Char} {x : Sent} {rs : ResultSet} {ref : ColumnRef}
  {row n : Nat} {c : Column} {cell : Cell}

/-- A row has a cell in the column that a caller names.  The other cells of a packet are any that
fit, its bitmap has any bits that stand for no cell, and any bytes stand behind it. -/
inductive SentAt (x : Sent) (c : Column) (rs : ResultSet) (row : Nat) (ref : ColumnRef) : Prop
  | text {rows : List (List (Option Bytes))} {cells : List (Option Bytes)} {n : Nat} {bs : Bytes}
    (hx : x = .text bs) (hrows : rs.rows = .text rows) (hrow : rows[row]? = some cells)
    (hcolumn : rs.column ref = .ok (n, c)) (hcell : cells[n]? = some (some bs))
  | packed {packets : List Bytes} {bindings : List Binding} {bitmap trailing : Bytes}
    {cells : List (Option RowCell)} {n : Nat} {cell : RowCell} (hx : x = .packed cell)
    (hrows : rs.rows = .binary packets bindings) (hbindings : bindings.length = rs.columns.length)
    (hrow : packets[row]? = some (layoutRow bitmap cells ++ trailing))
    (hfits : CellsFit rs.columns cells) (hmarks : Marks bitmap cells)
    (hcolumn : rs.column ref = .ok (n, c)) (hcell : cells[n]? = some (some cell))

/-- A row shows or carries a value of a server in the column that a caller names. -/
structure HeldAt (v : ServerCell) (text : List Char) (x : Sent) (rs : ResultSet) (row : Nat)
    (ref : ColumnRef) : Prop where
  shows : v.Shows text
  tells : x.Tells v text
  sent : ∃ c, c.fieldType ∈ v.fieldTypes ∧ SentAt x c rs row ref

/-! ## Going to a cell -/

/-- What is found of a cell. -/
inductive Found : Sent → Cell → Prop
  | text (bs : Bytes) : Found (.text bs) (.text bs)
  | packed {cell : RowCell} {b : Binding} (hbytes : b.bytes = RowCell.data (some cell)) :
    Found (.packed cell) (.bound b)

theorem Found.bytes_eq (h : Found x cell) : cell.bytes = x.bytes := by
  cases h with
  | text bs => rfl
  | packed hbytes => exact hbytes

theorem Found.eq_text {bs : Bytes} (h : Found (.text bs) cell) : cell = .text bs := by
  cases h
  rfl

theorem Found.ne_null (h : Found x cell) : cell ≠ .null := by
  cases h with
  | text bs => nofun
  | packed hbytes => nofun

/-- A move to a packet that has a cell finds a binding that shows it. -/
theorem SentAt.bound {m : Move} {x : RowCell} (h : SentAt (.packed x) c rs (m.row rs) ref)
    (hnull : c.fieldType ≠ .null) :
    (m.apply rs).1 = .ok true ∧ ∃ n b, (m.apply rs).2.column ref = .ok (n, c) ∧
      (m.apply rs).2.cell n = .ok (.bound b) ∧ RowCell.Shows c (some x) b := by
  cases h with
  | text hx => cases hx
  | @packed packets bindings bitmap trailing cells n x hx hrows hbindings hrow hfits hmarks hcolumn
      hcell =>
    cases hx
    obtain ⟨bindings', hdecode, -, hshows⟩ := decodeRow_shows hfits hmarks hbindings trailing
    obtain ⟨b, hb, hshown⟩ := hshows n c _ (getElem?_of_column hcolumn) hcell
    have hlt : m.row rs < packets.length := (List.getElem?_eq_some_iff.1 hrow).1
    have hpresent : b.isNull = false := by
      rw [hshown.isNull, beq_false_of_ne hnull]
      rfl
    rw [Move.apply_packet hrows hrow hdecode]
    refine ⟨rfl, n, b, (column_congr rfl).trans hcolumn, ?_, hshown⟩
    rw [cell_binary rfl rfl hlt hb, hpresent]
    rfl

/-- A move to a row that has a cell finds the cell. -/
theorem SentAt.moved {m : Move} (h : SentAt x c rs (m.row rs) ref) (hnull : c.fieldType ≠ .null) :
    (m.apply rs).1 = .ok true ∧ ∃ n cell, (m.apply rs).2.column ref = .ok (n, c) ∧
      (m.apply rs).2.cell n = .ok cell ∧ Found x cell := by
  cases x with
  | text bs =>
    cases h with
    | text hx hrows hrow hcolumn hcell =>
      cases hx
      rw [Move.apply_text hrows hrow]
      exact ⟨rfl, _, _, (column_congr rfl).trans hcolumn, cell_text hrows rfl hrow hcell, .text bs⟩
    | packed hx => cases hx
  | packed cell =>
    obtain ⟨hmove, n, b, hcolumn, hcell, hshown⟩ := h.bound hnull
    exact ⟨hmove, n, .bound b, hcolumn, hcell, .packed hshown.bytes⟩

/-! ## Reading a cell -/

theorem typed_number (hcolumn : rs.column ref = .ok (n, c)) (requested : ValueType) :
    rs.typed (.index n) requested = rs.typed ref requested := by
  rw [typed, typed, column_number hcolumn, hcolumn]

/-- What the accessor of the type of a value gives, as a value of any type. -/
def attempt (rs : ResultSet) (ref : ColumnRef) : ServerCell → Except Error Value
  | .temporal (.date _) => (rs.getDate ref).map .date
  | .temporal (.dateTime ..) => (rs.getDateTime ref).map .dateTime
  | .temporal (.time ..) => (rs.getTime ref).map .time
  | .decimal _ => (rs.getDecimal ref).map .decimal

theorem map_error {α β γ : Type} {r : Except Error α} {f : α → β} {e : Error}
    (h : r.map f = .error e) (g : α → γ) : r.map g = .error e := by
  cases r with
  | error e' =>
    cases h
    rfl
  | ok a => cases h

theorem attempt_error {e : Error} (h : rs.read ref v.accessor = .error e) :
    rs.attempt ref v = .error e := by
  rcases v with (_ | _ | _) | _
  all_goals exact map_error h _

theorem orText_map {α : Type} (f : α → Value) (cell : Cell) (r : Except Error α) :
    orText f cell r = orText id cell (r.map f) := by
  cases r with
  | error e => rfl
  | ok a => rfl

/-- A cell is given as the accessor of its type reads it, or as the text of its bytes. -/
theorem getValue_eq_attempt (hcolumn : rs.column ref = .ok (n, c))
    (htype : c.fieldType ∈ v.fieldTypes) (hcell : rs.cell n = .ok cell) (hpresent : cell ≠ .null) :
    rs.getValue ref = .ok (orText id cell (rs.attempt ref v)) := by
  refine (bind_ok hcolumn _).trans ((bind_ok hcell _).trans ?_)
  rw [if_neg hpresent, ServerCell.valueType_eq htype]
  have htyped := typed_number hcolumn
  rcases v with (_ | _ | _) | _
  · have hsame : rs.getDate (.index n) = rs.getDate ref := by
      rw [getDate, temporal, htyped, getDate, temporal]
    exact congrArg Except.ok (hsame ▸ orText_map Value.date cell _)
  · have hsame : rs.getDateTime (.index n) = rs.getDateTime ref := by
      rw [getDateTime, temporal, htyped, getDateTime, temporal]
    exact congrArg Except.ok (hsame ▸ orText_map Value.dateTime cell _)
  · have hsame : rs.getTime (.index n) = rs.getTime ref := by
      rw [getTime, htyped, getTime]
    exact congrArg Except.ok (hsame ▸ orText_map Value.time cell _)
  · have hsame : rs.getDecimal (.index n) = rs.getDecimal ref := by
      rw [getDecimal, htyped, getDecimal]
    exact congrArg Except.ok (hsame ▸ orText_map Value.decimal cell _)

/-- What a text is read as in a column of the type of a value. -/
def reading (s : String) : ServerCell → Except Error Value
  | .temporal (.date _) => (DateTime.parse (serverFraction s)).map fun d ↦ .date d.date
  | .temporal (.dateTime ..) => (DateTime.parse (serverFraction s)).map .dateTime
  | .temporal (.time ..) => (TimeOfDay.parse (serverFraction s)).map .time
  | .decimal _ => (Decimal.parse (String.ofList (trim s.toList))).map .decimal

theorem getDecimal_of_cell (h : rs.typed ref .decimal = .ok (n, c, cell))
    (hpresent : cell ≠ .null) :
    rs.getDecimal ref = Decimal.parse (String.ofList (trim (decode cell.bytes).toList)) := by
  refine (bind_ok h _).trans ?_
  cases cell with
  | null => exact absurd rfl hpresent
  | text bs => rfl
  | bound b => rfl

/-- What is given for a text: what it is read as, or else the text. -/
def given (s : String) (v : ServerCell) : Value :=
  match reading s v with
  | .ok a => a
  | .error _ => .string s

/-- A cell that has a text is read by its text, in a row of a query as in a packet. -/
theorem attempt_eq_reading (hcolumn : rs.column ref = .ok (n, c))
    (htype : c.fieldType ∈ v.fieldTypes) (hcell : rs.cell n = .ok cell) (hfound : Found x cell)
    (htells : x.Tells v text) (htext : x.hasText = true) :
    rs.attempt ref v = reading (String.ofList text) v := by
  have hown : rs.typed ref v.valueType = .ok (n, c, cell) :=
    typed_of_column hcolumn (by rw [ServerCell.valueType_eq htype, ValueType.compatible_self]) hcell
  cases v with
  | decimal k =>
    have hget : rs.getDecimal ref = _ := getDecimal_of_cell hown hfound.ne_null
    rw [attempt, hget, hfound.bytes_eq, htells.decode_bytes, if_pos htext, reading]
  | temporal t =>
    obtain rfl := htells.eq_text htext
    obtain rfl := hfound.eq_text
    cases t with
    | date d =>
      have htemporal : rs.temporal ref .date = _ := temporal_of_text hown
      rw [attempt, getDate, htemporal, decode_encode, reading]
      cases DateTime.parse (serverFraction (String.ofList text)) with
      | error e => rfl
      | ok d => rfl
    | dateTime d c hour_lt =>
      have htemporal : rs.temporal ref .dateTime = _ := temporal_of_text hown
      rw [attempt, getDateTime, htemporal, decode_encode, reading]
    | time negative c signed =>
      have hget : rs.getTime ref = _ := getTime_of_text hown
      rw [attempt, hget, decode_encode, reading]

/-! ## What is given for a cell -/

theorem orText_eq_given {s : String} (h : decode cell.bytes = s) :
    orText id cell (reading s v) = given s v := by
  rw [given]
  cases reading s v with
  | ok a => rfl
  | error e => exact congrArg Value.string h

/-- A value of a server in a row that is gone to. -/
theorem HeldAt.moved {m : Move} (h : HeldAt v text x rs (m.row rs) ref) :
    (m.apply rs).1 = .ok true ∧
      (∀ e, (m.apply rs).2.read ref v.accessor = .error e → (m.apply rs).2.getValue ref =
        .ok (.string (if x.hasText then String.ofList text else ""))) ∧
      (x.hasText = true → (m.apply rs).2.getValue ref = .ok (given (String.ofList text) v)) := by
  obtain ⟨hshows, htells, c, htype, hsent⟩ := h
  obtain ⟨hmove, n, cell, hcolumn, hcell, hfound⟩ :=
    hsent.moved (ServerCell.fieldType_ne_null htype)
  have hvalue := getValue_eq_attempt hcolumn htype hcell hfound.ne_null
  have hdecode : decode cell.bytes = if x.hasText then String.ofList text else "" :=
    hfound.bytes_eq ▸ htells.decode_bytes
  refine ⟨hmove, ?_, ?_⟩
  · intro e he
    rw [hvalue, attempt_error he, orText, hdecode]
  · intro htext
    rw [if_pos htext] at hdecode
    rw [hvalue, attempt_eq_reading hcolumn htype hcell hfound htells htext,
      orText_eq_given hdecode]

/-- A row can be gone to that has a date, a time or a decimal of a server.  If the accessor of its
type refuses the cell, its value is the text in which the server shows it, unless the cell is that
of a date or a time in a packet.  Such a cell has no text, and its value is the empty one whatever
the server sent.

Cells with texts differ in value wherever the server's values differ, if both are refused.  Cells
with the same text have the same value, one of them in a row of a query and the other in a packet
or both in rows of one kind, whether they are refused or read. -/
theorem getValue_unread {v : ServerCell} {s : List Char} {x : Sent} {rs : ResultSet} (m : Move)
    {p : ColumnRef} (hx : HeldAt v s x rs (m.row rs) p) :
    let rs' := (m.apply rs).2
    (m.apply rs).1 = .ok true ∧
      (∀ e, rs'.read p v.accessor = .error e → rs'.getValue p =
        .ok (.string (if x.hasText then String.ofList s else ""))) ∧
      ∀ {w : ServerCell} {t : List Char} {y : Sent} {qs : ResultSet} (m' : Move) {q : ColumnRef},
        HeldAt w t y qs (m'.row qs) q → v.valueType = w.valueType → x.hasText = true →
        y.hasText = true →
        let qs' := (m'.apply qs).2
        (∀ e e', rs'.read p v.accessor = .error e → qs'.read q w.accessor = .error e' →
          rs'.getValue p = qs'.getValue q → v = w) ∧
        (s = t → rs'.getValue p = qs'.getValue q) := by
  intro rs'
  obtain ⟨hmove, hunread, hgiven⟩ := hx.moved
  refine ⟨hmove, hunread, ?_⟩
  intro w t y qs m' q hy htype hxtext hytext qs'
  obtain ⟨-, hunread', hgiven'⟩ := hy.moved
  have hunique (h : s = t) : v = w := (h ▸ hx.shows).unique hy.shows htype
  constructor
  · intro e e' he he' heq
    rw [hunread e he, hunread' e' he', if_pos hxtext, if_pos hytext] at heq
    exact hunique (String.ofList_injective (Value.string.inj (Except.ok.inj heq)))
  · intro h
    rw [hgiven hxtext, hgiven' hytext, hunique h, h]

/-- A decimal that no word of 64 bits can hold. -/
def longNumber : ServerNumber :=
  { negative := false, magnitude := 123456789012345678905, scale := 1, signed := nofun }

/-- The text of the decimal with one digit behind the point. -/
def longText : List Char :=
  written false (digits 12345678901234567890) ['5']

theorem shows_longText : longNumber.Shows longText := by
  refine .intro Nat.toDigits_ne_nil ?_ (List.forall_mem_singleton.2 rfl) ?_ rfl
  · intro c hc
    exact isDigit_digits hc
  · rw [value_append, value_digits]
    rfl

/-- A packet has the text of a decimal, which is refused and given as it is. -/
theorem getValue_unread_longNumber :
    let column : Column := { name := "n", fieldType := .newDecimal }
    let data := encode (String.ofList longText)
    let ts := ofText [column] [[some data]]
    let bs := ofBinary [column] [layoutRow [0] [some (.bytes data)]]
    HeldAt (.decimal longNumber) longText (.packed (.bytes data)) bs 0 (.index 0) ∧
      bs.next.2.read (.index 0) .decimal = .error (overflow .parse) ∧
      bs.next.2.getValue (.index 0) = .ok (.string "12345678901234567890.5") ∧
      bs.next.2.getValue (.index 0) = ts.next.2.getValue (.index 0) := by
  intro column data ts bs
  have htype : FieldType.newDecimal ∈ (ServerCell.decimal longNumber).fieldTypes :=
    List.mem_cons_of_mem _ List.mem_cons_self
  have hfits : CellsFit [column] [some (.bytes data)] := by
    refine .cons ?_ .nil
    rintro _ ⟨⟩
    exact ⟨rfl, rfl, by decide +kernel⟩
  have hmarks : Marks [0] [some (.bytes data)] := ⟨by simp, by simp [ofLE]⟩
  have hpacket : HeldAt (.decimal longNumber) longText (.packed (.bytes data)) bs 0 (.index 0) :=
    ⟨shows_longText, .decimal rfl, column, htype,
      .packed rfl rfl rfl (congrArg some (List.append_nil _).symm) hfits hmarks rfl rfl⟩
  have hquery : HeldAt (.decimal longNumber) longText (.text data) ts 0 (.index 0) :=
    ⟨shows_longText, .shown, column, htype, .text rfl rfl rfl rfl rfl⟩
  have hrefused : bs.next.2.read (.index 0) .decimal = .error (overflow .parse) := by
    decide +kernel
  obtain ⟨-, hunread, hsame⟩ := getValue_unread .next hpacket
  have htext : String.ofList longText = "12345678901234567890.5" := by decide +kernel
  exact ⟨hpacket, hrefused, htext ▸ hunread _ hrefused, (hsame .next hquery rfl rfl rfl).2 rfl⟩

/-- The zero date and a date without a month. -/
def zeroDate : ServerValue :=
  .date { year := 0, month := 0, day := 0 }

def monthless : ServerValue :=
  .date { year := 2023, month := 0, day := 2 }

/-- Two dates that are refused stand in a row of a query each, and both texts are given.  The same
dates stand in a packet each, and nothing is given that tells one from the other. -/
theorem getValue_unread_dates :
    let column : Column := { name := "d", fieldType := .date }
    let ts := ofText [column] [[some (encode "0000-00-00")], [some (encode "2023-00-02")]]
    let bs := ofBinary [column] [layoutRow [0] [some (.date .nothing)],
      layoutRow [0] [some (.date (.date 2023 0 2))]]
    HeldAt (.temporal zeroDate) "0000-00-00".toList (.packed (.date .nothing)) bs 0 (.index 0) ∧
      HeldAt (.temporal monthless) "2023-00-02".toList (.packed (.date (.date 2023 0 2))) bs 1
        (.index 0) ∧
      (∀ row ∈ [0, 1], ∀ rs ∈ [ts, bs], (rs.seek row).1 = .ok true ∧
        ((rs.seek row).2.read (.index 0) .date).toOption = none) ∧
      (ts.seek 0).2.getValue (.index 0) = .ok (.string "0000-00-00") ∧
      (ts.seek 1).2.getValue (.index 0) = .ok (.string "2023-00-02") ∧
      (bs.seek 0).2.getValue (.index 0) = .ok (.string "") ∧
      (bs.seek 1).2.getValue (.index 0) = .ok (.string "") := by
  intro column ts bs
  have hfits (cell : DateCell) : CellsFit [column] [some (.date cell)] := by
    refine .cons ?_ .nil
    rintro _ ⟨⟩
    exact ⟨rfl, nofun⟩
  have hmarks (cell : DateCell) : Marks [0] [some (.date cell)] := ⟨by simp, by simp [ofLE]⟩
  have htype : FieldType.date ∈ (ServerCell.temporal zeroDate).fieldTypes := List.mem_cons_self
  have htype' : FieldType.date ∈ (ServerCell.temporal monthless).fieldTypes := List.mem_cons_self
  refine ⟨⟨.date _, .date rfl rfl, _, htype, .packed rfl rfl rfl rfl (hfits _) (hmarks _) rfl rfl⟩,
    ⟨.date _, .date rfl rfl, _, htype', .packed rfl rfl rfl rfl (hfits _) (hmarks _) rfl rfl⟩,
    ?_, ?_, ?_, ?_, ?_⟩
  all_goals decide +kernel

end ResultSet

end MariaClient
