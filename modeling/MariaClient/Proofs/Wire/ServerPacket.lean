import MariaClient.Proofs.Wire.Reads
import MariaClient.Wire.Column

/-!
# Packets of a server

The packets that answer a statement, as a server writes them, and the laws that the client's readers
give back what was written.  The client tells packets apart by their first bytes, which overlap:
`lenEncInt_cases` is what keeps the first byte of a count or of a row apart from the marks of
success, failure and the end of a list.
-/

namespace MariaClient.Wire

/-! ## First bytes -/

/-- The first byte of a length-encoded number is none of the marks for a failure and for no value.
It is zero only for zero, and eight bytes follow one that could be taken for the end of a list. -/
theorem lenEncInt_cases (n : Nat) :
    ∃ b bs, lenEncInt n = b :: bs ∧ b ≠ 0xff ∧ b ≠ 0xfb ∧ (b = 0x00 → n = 0) ∧
      (b = 0xfe → bs.length = 8) := by
  unfold lenEncInt
  split
  · next h =>
    have hn : (UInt8.ofNat n).toNat = n :=
      UInt8.toNat_ofNat_of_lt' (Nat.lt_trans h (by decide))
    refine ⟨_, _, rfl, ofNat_ne_of_lt h (by decide), ofNat_ne_of_lt h (by decide), fun h₀ ↦ ?_,
      fun h₀ ↦ ?_⟩
    · rw [h₀] at hn
      exact hn.symm
    · exact absurd h₀ (ofNat_ne_of_lt h (by decide))
  split
  · exact ⟨0xfc, toLE 2 n, rfl, by decide, by decide, by simp, by simp⟩
  split
  · exact ⟨0xfd, toLE 3 n, rfl, by decide, by decide, by simp, by simp⟩
  · exact ⟨0xfe, toLE 8 n, rfl, by decide, by decide, by simp, fun _ ↦ length_toLE 8 n⟩

theorem checkErr_of_not_isErr {packet : Bytes} (h : isErr packet = false) :
    checkErr packet = .ok () := by
  simp [checkErr, h]

theorem checkErr_of_isErr {packet : Bytes} (h : isErr packet = true) :
    checkErr packet = .error (errorOf packet) := by
  simp [checkErr, h]

theorem isEof_of_isErr {packet : Bytes} (h : isErr packet = true) : isEof packet = false := by
  simp only [isErr, beq_iff_eq] at h
  simp [isEof, h]

/-- A packet that is neither a failure nor the end of a list, and so may be a row. -/
def IsRow (packet : Bytes) : Prop :=
  isErr packet = false ∧ isEof packet = false

/-- What begins with a length-encoded number may be a row: in front of the end of a list too few
bytes would follow. -/
theorem isRow_lenEncInt_append (n : Nat) (bs : Bytes) : IsRow (lenEncInt n ++ bs) := by
  obtain ⟨b, t, h, hne, -, -, hlen⟩ := lenEncInt_cases n
  rw [h, List.cons_append]
  constructor
  · simpa [isErr] using hne
  · by_cases hb : b = 0xfe
    · simp [isEof, hlen hb]
    · simp [isEof, hb]

/-! ## Success -/

/-- The numbers of an outcome fit the fields of its packet. -/
structure Done.Fits (d : Done) : Prop where
  affectedRows : d.affectedRows < 2 ^ 64
  lastInsertId : d.lastInsertId < 2 ^ 64
  statusFlags : d.statusFlags < 2 ^ 16
  warnings : d.warnings < 2 ^ 16

/-- The packet that tells of success.  Servers may put a message behind the numbers. -/
def Done.packet (d : Done) (message : Bytes) : Bytes :=
  0x00 :: lenEncInt d.affectedRows ++ lenEncInt d.lastInsertId ++ toLE 2 d.statusFlags ++
    toLE 2 d.warnings ++ message

theorem Done.parse_packet {d : Done} (h : d.Fits) (message : Bytes) :
    Done.parse (d.packet message) = .ok d := by
  have hr : Reads Done.reader ([0x00] ++ (lenEncInt d.affectedRows ++ (lenEncInt d.lastInsertId ++
      (toLE 2 d.statusFlags ++ toLE 2 d.warnings)))) d :=
    (reads_byte 0x00).bind <| (reads_lenEncInt h.affectedRows).bind <|
      (reads_lenEncInt h.lastInsertId).bind <| (reads_le h.statusFlags).bind <|
        (reads_le h.warnings).map fun warnings ↦ { d with warnings }
  simpa [Done.parse, Done.packet] using hr.run message

/-! ## The end of a list -/

/-- What a packet that ends a list tells. -/
structure ListEnd where
  warnings : Nat := 0
  status : Nat := 0
  deriving DecidableEq, Repr

namespace ListEnd

/-- The numbers fit the fields of the packet. -/
structure Fits (e : ListEnd) : Prop where
  warnings : e.warnings < 2 ^ 16
  status : e.status < 2 ^ 16

/-- The packet that ends a list. -/
def packet (e : ListEnd) : Bytes :=
  0xfe :: toLE 2 e.warnings ++ toLE 2 e.status

theorem isEof_packet (e : ListEnd) : isEof e.packet = true := by
  simp [isEof, packet]

theorem isErr_packet (e : ListEnd) : isErr e.packet = false := by
  simp [isErr, packet]

theorem eofStatus_packet {e : ListEnd} (h : e.Fits) : eofStatus e.packet = e.status := by
  have hdrop : (e.packet.drop 3).take 2 = toLE 2 e.status := by simp [packet, toLE]
  have hlen : 5 ≤ e.packet.length := by simp [packet]
  have hstatus : e.status < 256 ^ 2 := h.status
  rw [eofStatus, if_pos hlen, hdrop, ofLE_toLE, Nat.mod_eq_of_lt hstatus]

end ListEnd

/-! ## Columns -/

/-- The definition of a column as a server sends it.  The client keeps `column` and drops the rest,
which may be any bytes. -/
structure Definition where
  column : Column
  catalog : Bytes := []
  schema : Bytes := []
  sourceTable : Bytes := []
  sourceName : Bytes := []
  filler : Bytes := []
  deriving DecidableEq, Repr

namespace Definition

/-- Everything fits its field of the packet. -/
structure Fits (d : Definition) : Prop where
  catalog : d.catalog.length < 2 ^ 64
  schema : d.schema.length < 2 ^ 64
  table : (Text.encode d.column.table).length < 2 ^ 64
  sourceTable : d.sourceTable.length < 2 ^ 64
  name : (Text.encode d.column.name).length < 2 ^ 64
  sourceName : d.sourceName.length < 2 ^ 64
  charset : d.column.charset < 2 ^ 16
  length : d.column.length < 2 ^ 32
  flags : d.column.flags < 2 ^ 16
  decimals : d.column.decimals < 2 ^ 8

/-- The packet of a definition. -/
def packet (d : Definition) : Bytes :=
  lenEncBytes d.catalog ++ lenEncBytes d.schema ++ lenEncBytes (Text.encode d.column.table) ++
    lenEncBytes d.sourceTable ++ lenEncBytes (Text.encode d.column.name) ++
    lenEncBytes d.sourceName ++ 0x0c :: toLE 2 d.column.charset ++ toLE 4 d.column.length ++
    d.column.fieldType.code :: toLE 2 d.column.flags ++ UInt8.ofNat d.column.decimals :: d.filler

/-- A text that the client reads and drops, so that it need not be valid. -/
theorem reads_dropped {bs : Bytes} (h : bs.length < 2 ^ 64) :
    Reads Reader.lenEncText (lenEncBytes bs) (Text.decode bs) :=
  (reads_lenEncBytes h).map fun bs ↦ Text.decode (bs.getD [])

theorem parse_packet {d : Definition} (h : d.Fits) : Column.parse d.packet = .ok d.column := by
  have hdecimals : (UInt8.ofNat d.column.decimals).toNat = d.column.decimals :=
    UInt8.toNat_ofNat_of_lt' h.decimals
  have hr : Reads Column.reader (lenEncBytes d.catalog ++ (lenEncBytes d.schema ++
      (lenEncBytes (Text.encode d.column.table) ++ (lenEncBytes d.sourceTable ++
      (lenEncBytes (Text.encode d.column.name) ++ (lenEncBytes d.sourceName ++
      (lenEncInt 0x0c ++ (toLE 2 d.column.charset ++ (toLE 4 d.column.length ++
      ([d.column.fieldType.code] ++ (toLE 2 d.column.flags ++
      ([UInt8.ofNat d.column.decimals] ++ [])))))))))))) d.column := by
    refine (reads_dropped h.catalog).bind ?_
    refine (reads_dropped h.schema).bind ?_
    refine (reads_lenEncText h.table).bind ?_
    refine (reads_dropped h.sourceTable).bind ?_
    refine (reads_lenEncText h.name).bind ?_
    refine (reads_dropped h.sourceName).bind ?_
    refine (reads_lenEncInt (by decide)).bind ?_
    refine (reads_le h.charset).bind ?_
    refine (reads_le h.length).bind ?_
    refine (reads_byte _).bind ?_
    refine (reads_le h.flags).bind ?_
    refine (reads_byte _).bind ?_
    rw [FieldType.ofCode_code, hdecimals]
    exact .pure _
  simpa [Column.parse, packet, lenEncInt] using hr.run d.filler

end Definition

/-! ## Prepared statements -/

/-- The numbers of an answer to a prepared statement fit the fields of its packet. -/
structure PrepareOk.Fits (p : PrepareOk) : Prop where
  statementId : p.statementId < 2 ^ 32
  columns : p.columns < 2 ^ 16
  params : p.params < 2 ^ 16
  warnings : p.warnings < 2 ^ 16

/-- The first packet of the answer to a prepared statement. -/
def PrepareOk.packet (p : PrepareOk) : Bytes :=
  0x00 :: toLE 4 p.statementId ++ toLE 2 p.columns ++ toLE 2 p.params ++
    0x00 :: toLE 2 p.warnings

/-- The warnings are there whatever follows them. -/
theorem PrepareOk.reads_warningsReader {n : Nat} (h : n < 2 ^ 16) :
    Reads PrepareOk.warningsReader (toLE 2 n) n := by
  intro rest
  have hlen : 2 ≤ (toLE 2 n ++ rest).length := by simp
  change (if 2 ≤ (toLE 2 n ++ rest).length then Reader.le 2 else pure 0) (toLE 2 n ++ rest) = _
  rw [if_pos hlen]
  exact reads_le h rest

theorem PrepareOk.parse_packet {p : PrepareOk} (h : p.Fits) : PrepareOk.parse p.packet = .ok p := by
  have hr : Reads PrepareOk.reader ([0x00] ++ (toLE 4 p.statementId ++ (toLE 2 p.columns ++
      (toLE 2 p.params ++ ([0x00] ++ toLE 2 p.warnings))))) p := by
    refine (reads_byte _).bind ?_
    refine (reads_le h.statementId).bind ?_
    refine (reads_le h.columns).bind ?_
    refine (reads_le h.params).bind ?_
    exact (reads_byte _).bind ((PrepareOk.reads_warningsReader h.warnings).map _)
  simpa [PrepareOk.parse, PrepareOk.packet] using hr.run []

/-! ## Rows of texts -/

/-- A cell of a row of texts. -/
def textCell : Option Bytes → Bytes
  | some bs => lenEncBytes bs
  | none => [0xfb]

/-- A row of texts, where some may be missing. -/
def textRowPacket (cells : List (Option Bytes)) : Bytes :=
  cells.flatMap textCell

theorem reads_textCell {cell : Option Bytes} (h : ∀ bs ∈ cell, bs.length < 2 ^ 64) :
    Reads Reader.lenEncBytes (textCell cell) cell := by
  cases cell with
  | none => exact reads_lenEncBytes_none
  | some bs => exact reads_lenEncBytes (h bs rfl)

/-- A row of texts is read whatever follows it. -/
theorem reads_textRowPacket {cells : List (Option Bytes)}
    (h : ∀ bs, some bs ∈ cells → bs.length < 2 ^ 64) :
    Reads (Reader.times Reader.lenEncBytes cells.length) (textRowPacket cells) cells :=
  reads_times fun _ hcell ↦ reads_textCell fun bs hbs ↦ h bs (hbs ▸ hcell)

theorem textRow_textRowPacket {cells : List (Option Bytes)}
    (h : ∀ bs, some bs ∈ cells → bs.length < 2 ^ 64) :
    textRow cells.length (textRowPacket cells) = .ok cells := by
  simpa [textRow] using (reads_textRowPacket h).run []

/-- A row of texts is told apart from a failure and from the end of a list. -/
theorem isRow_textRowPacket {cells : List (Option Bytes)} (h : cells ≠ []) :
    IsRow (textRowPacket cells) := by
  obtain ⟨cell, rest, rfl⟩ := List.exists_cons_of_ne_nil h
  cases cell with
  | none => simp [IsRow, textRowPacket, textCell, isErr, isEof]
  | some bs =>
    have hrow := isRow_lenEncInt_append bs.length (bs ++ textRowPacket rest)
    simpa [textRowPacket, textCell, lenEncBytes] using hrow

end MariaClient.Wire
