import MariaClient.Proofs.ResultSet.Unread

/-!
# Integers in texts and in packets

A row of a query shows an integer in digits, and a row of a prepared statement carries its lowest
bytes.  `ResultSet.getInteger_text_packet` says that the accessors give the same for both: the
integer itself where it fits, and never another one.
-/

namespace MariaClient

open Wire Text

/-! ## Integers of servers -/

/-- The types of the columns that hold integers of a width. -/
def IntWidth.fieldTypes : IntWidth → List FieldType
  | .w8 => [.tiny]
  | .w16 => [.short, .year]
  | .w32 => [.int24, .long]
  | .w64 => [.longLong]

/-- The texts in which a server shows an integer.  Zeros may stand in front, as in a column that is
filled up with them. -/
inductive ShowsInteger (n : Int) : List Char → Prop
  | intro {ds : List Char} (hne : ds ≠ []) (hdigit : ∀ c ∈ ds, c.isDigit = true)
    (hvalue : value ds = n.natAbs) : ShowsInteger n ((if n < 0 then ['-'] else []) ++ ds)

variable {w : IntWidth} {n : Int} {c : Column}

theorem IntWidth.mem_fieldTypes_iff {t : FieldType} :
    t ∈ w.fieldTypes ↔ t.valueType = .integer true w := by
  cases w <;> cases t <;> decide

theorem showsInteger_signedDigits (n : Int) : ShowsInteger n (signedDigits n) := by
  have hdigit : ∀ c ∈ digits n.natAbs, c.isDigit = true :=
    fun c hc ↦ isDigit_digits hc
  have hshows : ShowsInteger n _ := .intro Nat.toDigits_ne_nil hdigit (value_digits _)
  rw [signedDigits]
  split at hshows
  next h => rwa [if_pos h]
  next h => rwa [if_neg h]

namespace ShowsInteger

variable {s : List Char}

theorem isBlank (h : ShowsInteger n s) : ∀ c ∈ s, isBlank c = false := by
  obtain ⟨-, hdigit, -⟩ := h
  refine List.forall_mem_append.2 ⟨?_, fun c hc ↦ isBlank_of_isDigit (hdigit c hc)⟩
  split
  · exact List.forall_mem_singleton.2 rfl
  · nofun

theorem signed?_eq (h : ShowsInteger n s) : signed? s = some n := by
  obtain @⟨ds, hne, hdigit, hvalue⟩ := h
  have hdigits : digits? ds = some n.natAbs := by
    rw [digits?_eq hne hdigit, hvalue]
  split
  next hsign =>
    have hnegated : signed? ('-' :: ds) = some (-(n.natAbs : Int)) := by
      rw [signed?, hdigits]
      rfl
    rw [List.singleton_append, hnegated]
    exact congrArg some (by omega)
  next hsign =>
    -- A run of digits begins with neither of the signs.
    obtain ⟨d, ds, rfl⟩ := List.exists_cons_of_ne_nil hne
    have hd := hdigit d List.mem_cons_self
    have hunsigned : unsigned? (d :: ds) = some n.natAbs := (unsigned?_eq hdigit).trans hdigits
    have hsigned : signed? (d :: ds) = some (n.natAbs : Int) := by
      rw [signed?.eq_2, hunsigned]
      · rfl
      · rintro _ ⟨⟩
        cases hd
    rw [List.nil_append, hsigned]
    exact congrArg some (Int.natAbs_of_nonneg (Int.not_lt.1 hsign))

/-- A text is read as the integer that it shows, by every reader that has room for it. -/
theorem parseText_eq {bits : Nat} {what : TextKind} (h : ShowsInteger n s)
    (hfits : fitsSigned bits n = true) :
    ResultSet.parseText what (signedWord? bits) (encode (String.ofList s)) = .ok n := by
  have hword : signedWord? bits (trim s) = some n := by
    rw [trim_of_no_blanks h.isBlank, signedWord?, h.signed?_eq, Option.filter_some, if_pos hfits]
  rw [ResultSet.parseText, decode_encode, String.toList_ofList, hword]

end ShowsInteger

/-- The integers of all columns have room in a word of 128 bits. -/
theorem fitsSigned_of_fits {signed : Bool} (h : ResultSet.fits signed w n = true) :
    fitsSigned 128 n = true := by
  rw [fitsSigned_iff]
  cases signed with
  | true =>
    have hword : fitsSigned w.bits n = true := h
    rw [fitsSigned_iff] at hword
    cases w <;> simp only [IntWidth.bits] at hword <;> omega
  | false =>
    have hword : fitsUnsigned w.bits n = true := h
    rw [fitsUnsigned, Bool.and_eq_true, decide_eq_true_eq, decide_eq_true_eq] at hword
    cases w <;> simp only [IntWidth.bits] at hword <;> omega

/-- A cell of a column holds an integer, as a text that shows it or as a binding that has it. -/
inductive Cell.HoldsInteger (c : Column) (n : Int) : Cell → Prop
  | text {s : List Char} (h : ShowsInteger n s) :
    HoldsInteger c n (.text (encode (String.ofList s)))
  | bound {b : Binding} (hsign : b.unsigned = c.isUnsigned) (h : b.integer = n) :
    HoldsInteger c n (.bound b)

/-- A server sends an integer, as a text that shows it or as its lowest bytes. -/
inductive Sent.HasInteger (w : IntWidth) (n : Int) : Sent → Prop
  | shown {s : List Char} (h : ShowsInteger n s) :
    HasInteger w n (.text (encode (String.ofList s)))
  | packed : HasInteger w n (.packed (.fixed (integerBytes w n)))

/-- The type in which the columns of an integer are read. -/
theorem Column.valueType_of_mem (h : c.fieldType ∈ w.fieldTypes) :
    c.valueType = .integer (!c.isUnsigned) w := by
  rw [Column.valueType, IntWidth.mem_fieldTypes_iff.1 h]
  rfl

theorem Column.ne_null_of_mem (h : c.fieldType ∈ w.fieldTypes) : c.fieldType ≠ .null := by
  intro hnull
  have hinteger := IntWidth.mem_fieldTypes_iff.1 h
  rw [hnull] at hinteger
  cases hinteger

theorem Column.fixedWidth_of_mem (h : c.fieldType ∈ w.fieldTypes) :
    c.fieldType.fixedWidth = some w.bytes := by
  generalize c.fieldType = t at h
  revert h
  cases w <;> cases t <;> decide

namespace ResultSet

variable {rs : ResultSet} {ref : ColumnRef} {k : Nat} {cell : Cell} {x : Sent}

/-! ## Reading a cell -/

theorem integer_of_holds {requested : ValueType} (htyped : rs.typed ref requested = .ok (k, c, cell))
    (hcell : cell.HoldsInteger c n) (hroom : fitsSigned 128 n = true) :
    rs.integer ref requested = .ok n := by
  refine (bind_ok htyped _).trans ?_
  cases hcell with
  | text h => exact h.parseText_eq hroom
  | bound hsign h => exact congrArg Except.ok h

/-- What an accessor gives for an integer of a column: the integer if the widths are the same and
it fits. -/
def integerReading (c : Column) (w : IntWidth) (n : Int) (signed : Bool) (width : IntWidth) :
    Except Error Int :=
  if width ≠ w then .error (.typeMismatch (.integer signed width) (.integer (!c.isUnsigned) w))
  else if fits signed width n then .ok n
  else .error (.format (.integer signed width) (ofInt n))

theorem compatible_integer_iff {s s' : Bool} {w w' : IntWidth} :
    (ValueType.integer s w).compatible (.integer s' w') = true ↔ w = w' := by
  cases s <;> cases s' <;> cases w <;> cases w' <;> decide

theorem getInteger_of_holds (hcolumn : rs.column ref = .ok (k, c))
    (htype : c.fieldType ∈ w.fieldTypes) (hcell : rs.cell k = .ok cell)
    (hholds : cell.HoldsInteger c n) (hroom : fitsSigned 128 n = true) (signed : Bool)
    (width : IntWidth) :
    rs.getInteger ref signed width = integerReading c w n signed width := by
  have hvalueType := Column.valueType_of_mem htype
  rw [integerReading]
  by_cases hwidth : width = w
  · have hcompatible : (ValueType.integer signed width).compatible c.valueType = true := by
      rwa [hvalueType, compatible_integer_iff]
    have hinteger := integer_of_holds (typed_of_column hcolumn hcompatible hcell) hholds hroom
    rw [if_neg (not_not_intro hwidth)]
    exact bind_ok hinteger _
  · have hcompatible : (ValueType.integer signed width).compatible c.valueType = false := by
      rwa [hvalueType, Bool.eq_false_iff, ne_eq, compatible_integer_iff]
    have htyped := typed_mismatched hcolumn hcompatible
    rw [if_pos hwidth, getInteger, integer, htyped, hvalueType]
    rfl

theorem lowBits_ne_zero (hroom : fits true .w8 n = true) : (lowBits 64 n != 0) = (n != 0) := by
  have hword : fitsSigned 8 n = true := hroom
  rw [fitsSigned_iff] at hword
  rw [lowBits, Bool.eq_iff_iff, bne_iff_ne, bne_iff_ne]
  omega

theorem toUnsigned_ne_zero {b : Binding} (hsigned : b.unsigned = false)
    (hroom : fits true .w8 b.integer = true) : (b.toUnsigned != 0) = (b.integer != 0) := by
  have hinteger : b.integer = b.signed := by
    rw [Binding.integer, if_neg (by rw [hsigned]; exact Bool.false_ne_true)]
  rw [Binding.toUnsigned, if_neg (by rw [hsigned]; exact Bool.false_ne_true), ← hinteger,
    lowBits_ne_zero hroom]

/-- The truth value of a signed byte is whether it is not zero. -/
theorem getBoolean_of_holds (hcolumn : rs.column ref = .ok (k, c))
    (htype : c.fieldType ∈ IntWidth.w8.fieldTypes) (hsigned : c.isUnsigned = false)
    (hcell : rs.cell k = .ok cell) (hholds : cell.HoldsInteger c n) (hroom : fits true .w8 n = true) :
    rs.getBoolean ref = .ok (n != 0) := by
  have hcompatible : ValueType.boolean.compatible c.valueType = true := by
    rw [Column.valueType_of_mem htype, hsigned]
    rfl
  have htyped := typed_of_column hcolumn hcompatible hcell
  cases hholds with
  | bound hsign h =>
    subst h
    rw [getBoolean_of_bound htyped, toUnsigned_ne_zero (hsign.trans hsigned) hroom]
  | text h =>
    have hbyte : fitsSigned 8 n = true := hroom
    have hword : fitsSigned 64 n = true := by
      rw [fitsSigned_iff] at hbyte ⊢
      omega
    have htiny : c.fieldType = .tiny := List.mem_singleton.1 htype
    have hparse : parseText .boolean (signedWord? 64) _ = .ok n := h.parseText_eq hword
    refine (bind_ok htyped _).trans ?_
    dsimp only
    rw [if_neg (by rw [htiny]; nofun)]
    exact bind_ok hparse _

/-! ## Going to a cell -/

variable {m : Move}

/-- A move to a row with an integer finds it. -/
theorem SentAt.holdsInteger (h : SentAt x c rs (m.row rs) ref) (hx : x.HasInteger w n)
    (htype : c.fieldType ∈ w.fieldTypes) (hrange : fits (!c.isUnsigned) w n = true) :
    (m.apply rs).1 = .ok true ∧ ∃ k cell, (m.apply rs).2.column ref = .ok (k, c) ∧
      (m.apply rs).2.cell k = .ok cell ∧ cell.HoldsInteger c n := by
  have hnull := Column.ne_null_of_mem htype
  cases hx with
  | shown hshows =>
    obtain ⟨hmove, k, cell, hcolumn, hcell, hfound⟩ := h.moved hnull
    obtain rfl := hfound.eq_text
    exact ⟨hmove, k, _, hcolumn, hcell, .text hshows⟩
  | packed =>
    obtain ⟨hmove, k, b, hcolumn, hcell, hshown⟩ := h.bound hnull
    have hinteger := IntWidth.mem_fieldTypes_iff.1 htype
    have hlength : b.length = w.bytes := by
      rw [hshown.length, Column.fixedWidth_of_mem htype, Option.getD_some]
    have hsign := hshown.integer hinteger
    have hvalue := Binding.integer_of_bytes hshown.scalar hlength (hsign ▸ hrange)
    exact ⟨hmove, k, .bound b, hcolumn, hcell, .bound hsign hvalue⟩

/-- An integer that is gone to is read by all accessors. -/
theorem SentAt.reads_integer (h : SentAt x c rs (m.row rs) ref) (hx : x.HasInteger w n)
    (htype : c.fieldType ∈ w.fieldTypes) (hrange : fits (!c.isUnsigned) w n = true) :
    (m.apply rs).1 = .ok true ∧
      (∀ signed width,
        (m.apply rs).2.getInteger ref signed width = integerReading c w n signed width) ∧
      (w = .w8 → c.isUnsigned = false → (m.apply rs).2.getBoolean ref = .ok (n != 0)) := by
  obtain ⟨hmove, k, cell, hcolumn, hcell, hholds⟩ := h.holdsInteger hx htype hrange
  refine ⟨hmove, ?_, ?_⟩
  · intro signed width
    exact getInteger_of_holds hcolumn htype hcell hholds (fitsSigned_of_fits hrange) signed width
  · rintro rfl hsigned
    rw [hsigned] at hrange
    exact getBoolean_of_holds hcolumn htype hsigned hcell hholds hrange

/-- A row of a query shows an integer in its column, and a packet carries the lowest bytes of the
same integer in a column of the same type with the same flag.  The integer is any that a column of
this type and flag can have.  Then both rows can be gone to, and every accessor of integers gives
the same for both: a mismatch of types if its width is not that of the column, the integer if it
fits the accessor, and an error with the integer in it otherwise.  A signed byte is true in both if
it is not zero. -/
theorem getInteger_text_packet {w : IntWidth} {n : Int} {s : List Char} {c c' : Column}
    {ts bs : ResultSet} {p q : ColumnRef} (m m' : Move) (htype : c.fieldType ∈ w.fieldTypes)
    (hsame : c'.fieldType = c.fieldType) (hsign : c'.isUnsigned = c.isUnsigned)
    (hrange : fits (!c.isUnsigned) w n = true) (hshows : ShowsInteger n s)
    (htext : SentAt (.text (encode (String.ofList s))) c ts (m.row ts) p)
    (hpacket : SentAt (.packed (.fixed (integerBytes w n))) c' bs (m'.row bs) q) :
    let ts' := (m.apply ts).2
    let bs' := (m'.apply bs).2
    (m.apply ts).1 = .ok true ∧ (m'.apply bs).1 = .ok true ∧
      (∀ signed width, bs'.getInteger q signed width = ts'.getInteger p signed width) ∧
      (∀ signed width, width ≠ w → ts'.getInteger p signed width =
        .error (.typeMismatch (.integer signed width) (.integer (!c.isUnsigned) w))) ∧
      (∀ signed, fits signed w n = true → ts'.getInteger p signed w = .ok n) ∧
      (∀ signed, fits signed w n = false →
        ts'.getInteger p signed w = .error (.format (.integer signed w) (ofInt n))) ∧
      (w = .w8 → c.isUnsigned = false →
        ts'.getBoolean p = .ok (n != 0) ∧ bs'.getBoolean q = .ok (n != 0)) := by
  intro ts' bs'
  obtain ⟨hmove, hread, htrue⟩ := htext.reads_integer (.shown hshows) htype hrange
  obtain ⟨hmove', hread', htrue'⟩ :=
    hpacket.reads_integer .packed (hsame ▸ htype) (hsign ▸ hrange)
  refine ⟨hmove, hmove', ?_, ?_, ?_, ?_, ?_⟩
  · intro signed width
    rw [hread, hread', integerReading, hsign, integerReading]
  · intro signed width hne
    rw [hread, integerReading, if_pos hne]
  · intro signed hfits
    rw [hread, integerReading, if_neg (not_not_intro rfl), if_pos hfits]
  · intro signed hfits
    rw [hread, integerReading, if_neg (not_not_intro rfl), hfits]
    rfl
  · intro hw hsigned
    exact ⟨htrue hw hsigned, htrue' hw (hsign.trans hsigned)⟩

/-- Bytes of ones are the highest integer below zero in a signed byte, and the highest that there is
in eight bytes without a sign, which a word with a sign cannot hold. -/
theorem getInteger_text_packet_ones :
    let a : Column := { name := "a", fieldType := .tiny }
    let b : Column := { name := "b", fieldType := .longLong, flags := 0x20 }
    let ts := ofText [a, b] [[some (encode "-001"), some (encode "18446744073709551615")]]
    let bs := ofBinary [a, b] [[0, 0, 255, 255, 255, 255, 255, 255, 255, 255, 255]]
    ∀ rs ∈ [ts.next.2, bs.next.2],
      rs.getInteger (.index 0) true .w8 = .ok (-1) ∧
      rs.getInteger (.index 0) false .w8 = .error (.format (.integer false .w8) "-1") ∧
      rs.getInteger (.index 0) true .w16 =
        .error (.typeMismatch (.integer true .w16) (.integer true .w8)) ∧
      rs.getBoolean (.index 0) = .ok true ∧
      rs.getInteger (.name "b") false .w64 = .ok 18446744073709551615 ∧
      rs.getInteger (.name "b") true .w64 =
        .error (.format (.integer true .w64) "18446744073709551615") := by
  intro a b ts bs
  have ha : a.isUnsigned = false := by decide
  have hb : b.isUnsigned = true := by decide
  let cells : List (Option RowCell) :=
    [some (.fixed (integerBytes .w8 (-1))),
      some (.fixed (integerBytes .w64 18446744073709551615))]
  have hfits : CellsFit [a, b] cells := by
    refine .cons ?_ (.cons ?_ .nil)
    · rintro _ ⟨⟩
      exact ⟨rfl, nofun, nofun⟩
    · rintro _ ⟨⟩
      exact ⟨rfl, nofun, nofun⟩
  have hmarks : Marks [0] cells := ⟨by decide, by decide⟩
  have hrow : [[0, 0, 255, 255, 255, 255, 255, 255, 255, 255, 255]][(0 : Nat)]? =
      some (layoutRow [0] cells ++ []) := by
    decide +kernel
  have hbyte : ShowsInteger (-1) ['-', '0', '0', '1'] :=
    .intro (List.cons_ne_nil '0' ['0', '1']) (List.all_eq_true.1 rfl) rfl
  have hword : ShowsInteger 18446744073709551615 "18446744073709551615".toList :=
    .intro (List.cons_ne_nil '1' _) (List.all_eq_true.1 rfl) rfl
  have htext : SentAt (.text (encode (String.ofList ['-', '0', '0', '1']))) a ts 0 (.index 0) :=
    .text rfl rfl rfl rfl rfl
  have htext' : SentAt (.text (encode "18446744073709551615")) b ts 0 (.name "b") :=
    .text rfl rfl rfl rfl rfl
  have hpacket : SentAt (.packed (.fixed (integerBytes .w8 (-1)))) a bs 0 (.index 0) :=
    .packed rfl rfl rfl hrow hfits hmarks rfl rfl
  have hpacket' : SentAt (.packed (.fixed (integerBytes .w64 18446744073709551615))) b bs 0
      (.name "b") :=
    .packed rfl rfl rfl hrow hfits hmarks rfl rfl
  obtain ⟨-, -, hsame, hmismatch, hok, herror, htrue⟩ :=
    getInteger_text_packet .next .next List.mem_cons_self rfl rfl (ha ▸ by decide) hbyte htext
      hpacket
  obtain ⟨-, -, hsame', -, hok', herror', -⟩ :=
    getInteger_text_packet .next .next List.mem_cons_self rfl rfl (hb ▸ by decide) hword htext'
      hpacket'
  rw [ha] at hmismatch
  have hwidth : IntWidth.w16 ≠ .w8 := nofun
  refine List.forall_mem_cons.2 ⟨?_, List.forall_mem_singleton.2 ?_⟩
  · exact ⟨hok true rfl, herror false rfl, hmismatch true .w16 hwidth, (htrue rfl ha).1,
      hok' false rfl, herror' true rfl⟩
  · exact ⟨(hsame _ _).trans (hok true rfl), (hsame _ _).trans (herror false rfl),
      (hsame _ _).trans (hmismatch true .w16 hwidth), (htrue rfl ha).2,
      (hsame' _ _).trans (hok' false rfl), (hsame' _ _).trans (herror' true rfl)⟩

end ResultSet

end MariaClient
