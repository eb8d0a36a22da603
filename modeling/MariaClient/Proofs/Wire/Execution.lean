import MariaClient.Proofs.Wire.Bitmap
import MariaClient.Proofs.Wire.Parameter

/-!
# Executions on the wire

The layout of the command that executes a prepared statement, as a server reads it, and the row that
a server sends if it echoes the parameters.  The command marks the missing parameters in a bitmap
that begins with its first bit; the bitmap of a row begins with its third.

`reads_executeCommand` says that the layout gives back what the command was made from, and
`decodeRow_echo` that the echoed row is decoded as if the parameters were given to its bindings.
-/

namespace MariaClient

open Temporal Wire

/-! ## Bindings of all parameters -/

/-- An entry of the table of types. -/
def Wire.typeEntry (type : UInt8 × Bool) : Bytes :=
  [type.1, if type.2 then 0x80 else 0]

theorem flatMap_filter {α β : Type} (keep : α → Bool) (f : α → List β) (l : List α) :
    (l.filter keep).flatMap f = l.flatMap fun a ↦ if keep a then f a else [] := by
  induction l with
  | nil => rfl
  | cons a l ih =>
    rw [List.filter_cons, List.flatMap_cons, ← ih]
    by_cases h : keep a = true
    · rw [if_pos h, if_pos h, List.flatMap_cons]
    · rw [if_neg h, if_neg h, List.nil_append]

namespace Param

/-- Gives each parameter to the binding at its place. -/
def bindAll (bindings : List Binding) (params : List Param) : List Binding :=
  List.zipWith (fun b p ↦ p.bind b) bindings params

@[simp] theorem bindAll_cons (b : Binding) (bs : List Binding) (p : Param) (ps : List Param) :
    bindAll (b :: bs) (p :: ps) = p.bind b :: bindAll bs ps := rfl

theorem length_bindAll {bindings : List Binding} {params : List Param}
    (h : bindings.length = params.length) : (bindAll bindings params).length = params.length := by
  rw [bindAll, List.length_zipWith, h, Nat.min_self]

theorem getElem?_bindAll {bindings : List Binding} {params : List Param} {n : Nat} {b : Binding}
    {p : Param} (hb : bindings[n]? = some b) (hp : params[n]? = some p) :
    (bindAll bindings params)[n]? = some (p.bind b) := by
  rw [bindAll, List.getElem?_zipWith, hb, hp]

/-- The code of the type of a parameter, and whether its integers have no sign. -/
def type (p : Param) : UInt8 × Bool :=
  (p.fieldType.code, p.isUnsigned)

theorem encodeType_bind (b : Binding) (p : Param) : encodeType (p.bind b) = typeEntry p.type := by
  rw [encodeType, bind_fieldType, bind_unsigned, if_neg (fieldType_ne_bit p)]
  rfl

/-- A property of each parameter that bindings show. -/
theorem map_bindAll {α : Type} {bindings : List Binding} {params : List Param}
    (h : bindings.length = params.length) {f : Binding → α} {g : Param → α}
    (hf : ∀ b p, f (bind b p) = g p) : (bindAll bindings params).map f = params.map g := by
  refine List.ext_getElem (by simp [length_bindAll h]) fun i _ _ ↦ ?_
  simp [bindAll, hf]

/-- What is sent for the values of some bindings, the missing ones left out. -/
theorem values_bindAll {bindings : List Binding} {params : List Param}
    (h : bindings.length = params.length) :
    ((bindAll bindings params).filter fun b ↦ !b.isNull).flatMap encodeValue =
      params.flatMap payload := by
  have hvalue (b : Binding) (p : Param) :
      (if !(p.bind b).isNull then encodeValue (p.bind b) else []) = p.payload := by
    rw [bind_isNull]
    by_cases hp : p = .null
    · subst hp
      rfl
    · rw [beq_false_of_ne hp, encodeValue_bind b hp]
      rfl
  rw [flatMap_filter, List.flatMap_def, map_bindAll h hvalue, List.flatMap_def]

end Param

/-! ## The layout of an execution -/

namespace Wire

/-- What the layout of an execution tells: the numbers of its head, which parameters are missing,
the code of each type and whether its integers have no sign, and the bytes of each value that is
present. -/
structure Execution where
  statementId : Nat
  flags : UInt8
  iterations : Nat
  nulls : List Bool := []
  types : List (UInt8 × Bool) := []
  values : List Bytes := []
  deriving DecidableEq, Repr

/-- Takes a byte, which has to be the given one. -/
def expect (b : UInt8) : Reader Unit := do
  if (← Reader.byte) = b then return () else Attempt.fail (.protocol (.reported "unexpected byte"))

/-- The bytes that a reader takes. -/
def taken {α : Type} (r : Reader α) : Reader Bytes := fun s ↦
  match r s with
  | (.ok _, rest) => (.ok (s.take (s.length - rest.length)), rest)
  | (.error e, rest) => (.error e, rest)

/-- Takes an entry of the table of types. -/
def typeReader : Reader (UInt8 × Bool) := do
  let code ← Reader.byte
  return (code, (← Reader.byte).toNat.testBit 7)

/-- Takes the bytes of a value of a type: as many as all its values have, or a run of bytes after
its length. -/
def valueReader (code : UInt8) : Reader Bytes :=
  match (FieldType.ofCode code).fixedWidth with
  | some width => Reader.bytes width
  | none =>
    if (FieldType.ofCode code).isTemporal then taken do Reader.bytes (← Reader.byte).toNat
    else taken Reader.lenEncBytes

/-- Takes the values of the parameters that are present. -/
def valuesReader : List (Bool × UInt8) → Reader (List Bytes)
  | [] => return []
  | (true, _) :: params => valuesReader params
  | (false, code) :: params => do
    let value ← valueReader code
    return value :: (← valuesReader params)

/-- Takes the execution of a statement with so many parameters.  Without parameters nothing follows
the head. -/
def executionReader (count : Nat) : Reader Execution := do
  expect 0x17
  let statementId ← Reader.le 4
  let flags ← Reader.byte
  let iterations ← Reader.le 4
  if count = 0 then return { statementId, flags, iterations }
  else
    let bitmap ← Reader.bytes ((count + 7) / 8)
    let nulls := (List.range count).map (testBit bitmap)
    expect 1
    let types ← Reader.times typeReader count
    let values ← valuesReader (nulls.zip (types.map (·.1)))
    return { statementId, flags, iterations, nulls, types, values }

theorem reads_expect (b : UInt8) : Reads (expect b) [b] () := by
  refine (reads_byte b).bind ?_
  rw [if_pos rfl]
  exact .pure ()

theorem reads_typeEntry (type : UInt8 × Bool) : Reads typeReader (typeEntry type) type := by
  obtain ⟨code, unsigned⟩ := type
  have hflag : (if unsigned then 0x80 else 0 : UInt8).toNat.testBit 7 = unsigned := by
    cases unsigned <;> rfl
  have hr := (reads_byte (if unsigned then 0x80 else 0)).map fun flag ↦
    (code, flag.toNat.testBit 7)
  rw [hflag] at hr
  exact (reads_byte code).bind hr

theorem reads_taken {α : Type} {r : Reader α} {bs : Bytes} {a : α} (h : Reads r bs a) :
    Reads (taken r) bs bs := by
  intro rest
  rw [taken, h rest]
  simp

/-- A temporal value begins with the number of the bytes that follow. -/
theorem encodeTemporal_eq (fieldType : FieldType) (t : WireTime) :
    ∃ count data, encodeTemporal fieldType t = count :: data ∧ data.length = count.toNat := by
  unfold encodeTemporal encodeTime encodeDate
  dsimp only
  split
  · split
    · exact ⟨0, [], rfl, rfl⟩
    split
    · exact ⟨8, _, rfl, by simp⟩
    · exact ⟨12, _, rfl, by simp⟩
  · split
    · exact ⟨0, [], rfl, rfl⟩
    split
    · exact ⟨11, _, rfl, by simp⟩
    split
    · exact ⟨7, _, rfl, by simp⟩
    · exact ⟨4, _, rfl, by simp⟩

theorem reads_value_temporal {fieldType : FieldType} (ht : fieldType.isTemporal = true)
    (t : WireTime) :
    Reads (valueReader fieldType.code) (encodeTemporal fieldType t)
      (encodeTemporal fieldType t) := by
  obtain ⟨count, data, hencode, hlength⟩ := encodeTemporal_eq fieldType t
  rw [valueReader, FieldType.ofCode_code, FieldType.fixedWidth_of_isTemporal ht, hencode]
  dsimp only
  rw [if_pos ht]
  exact reads_taken ((reads_byte count).bind (reads_bytes hlength))

theorem reads_value_bytes {fieldType : FieldType} (hw : fieldType.fixedWidth = none)
    (ht : fieldType.isTemporal = false) {data : Bytes} (h : data.length < 2 ^ 64) :
    Reads (valueReader fieldType.code) (lenEncBytes data) (lenEncBytes data) := by
  rw [valueReader, FieldType.ofCode_code, hw]
  dsimp only
  rw [if_neg (by rw [ht]; nofun)]
  exact reads_taken (reads_lenEncBytes h)

end Wire

namespace Param

/-- The layout of an execution with some parameters. -/
def execution (statementId : Nat) (params : List Param) : Execution where
  statementId := statementId
  flags := 0
  iterations := 1
  nulls := params.map (· == .null)
  types := params.map type
  values := (params.filter (· != .null)).map payload

theorem reads_value {p : Param} (hp : p ≠ .null) (hfits : p.Fits) :
    Reads (valueReader p.fieldType.code) p.payload p.payload := by
  cases layout hp with
  | fixed width hw hlength _ =>
    rw [valueReader, FieldType.ofCode_code, hw]
    exact reads_bytes hlength
  | bytes data hw ht _ hpayload hlength _ =>
    rw [hpayload]
    exact reads_value_bytes hw ht (hlength hfits)
  | temporal t ht hpayload _ _ =>
    rw [hpayload]
    exact reads_value_temporal ht t

theorem reads_values {params : List Param} (hfits : ∀ p ∈ params, p.Fits) :
    Reads (valuesReader (params.map fun p ↦ (p == .null, p.fieldType.code)))
      (params.flatMap payload) ((params.filter (· != .null)).map payload) := by
  induction params with
  | nil => exact .pure []
  | cons p ps ih =>
    have hrest := ih fun q hq ↦ hfits q (List.mem_cons_of_mem p hq)
    by_cases hp : p = .null
    · subst hp
      exact hrest
    · have hvalue := reads_value hp (hfits p List.mem_cons_self)
      rw [List.map_cons, beq_false_of_ne hp, List.flatMap_cons, List.filter_cons,
        if_pos (bne_iff_ne.2 hp), List.map_cons]
      exact hvalue.bind (hrest.map (p.payload :: ·))

/-- Missing values have no bytes. -/
theorem flatten_values (params : List Param) :
    ((params.filter (· != .null)).map payload).flatten = params.flatMap payload := by
  have hvalue (p : Param) : (if p != .null then p.payload else []) = p.payload := by
    by_cases hp : p = .null
    · subst hp
      rfl
    · exact if_pos (bne_iff_ne.2 hp)
  rw [← List.flatMap_def, flatMap_filter]
  exact congrArg (List.flatMap · params) (funext hvalue)

/-- The command that executes a statement with some parameters. -/
theorem executeCommand_bindAll (statementId : Nat) {bindings : List Binding} {params : List Param}
    (hlength : bindings.length = params.length) (hparams : params ≠ []) :
    executeCommand statementId (bindAll bindings params) =
      [0x17] ++ (toLE 4 statementId ++ ([0] ++ (toLE 4 1 ++ (packBits (params.map (· == .null)) ++
        ([1] ++ ((params.map type).flatMap typeEntry ++ params.flatMap payload)))))) := by
  have hbindings : bindAll bindings params ≠ [] :=
    List.ne_nil_of_length_pos (length_bindAll hlength ▸ List.length_pos_iff.2 hparams)
  rw [executeCommand, if_neg hbindings, values_bindAll hlength,
    map_bindAll hlength fun b p ↦ p.bind_isNull b, List.flatMap_def,
    map_bindAll hlength encodeType_bind, List.flatMap_map, ← List.flatMap_def]
  simp [CommandCode.byte]

/-- The layout gives back what the command was made from, and no bytes are left over. -/
theorem reads_executeCommand {statementId : Nat} (hid : statementId < 2 ^ 32)
    {bindings : List Binding} {params : List Param} (hlength : bindings.length = params.length)
    (hfits : ∀ p ∈ params, p.Fits) :
    Reads (executionReader params.length) (executeCommand statementId (bindAll bindings params))
      (execution statementId params) := by
  unfold executionReader
  by_cases hparams : params = []
  · subst hparams
    obtain rfl := List.length_eq_zero_iff.1 hlength
    exact (reads_expect 0x17).bind ((reads_le hid).bind ((reads_byte 0).bind
      ((reads_le (show 1 < 256 ^ 4 by decide)).bind (.pure (execution statementId [])))))
  · rw [executeCommand_bindAll statementId hlength hparams]
    have hcount : params.length ≠ 0 := mt List.length_eq_zero_iff.1 hparams
    refine (reads_expect 0x17).bind ((reads_le hid).bind ((reads_byte 0).bind
      ((reads_le (by decide)).bind ?_)))
    rw [if_neg hcount]
    have hnulls : (List.range params.length).map (testBit (packBits (params.map (· == .null)))) =
        params.map (· == .null) := by
      simpa using range_map_testBit (params.map (· == .null))
    refine (reads_bytes (by simp)).bind ((reads_expect 1).bind ?_)
    rw [hnulls]
    have htypes : Reads (Reader.times typeReader (params.map type).length)
        ((params.map type).flatMap typeEntry) (params.map type) :=
      reads_times fun type _ ↦ reads_typeEntry type
    rw [List.length_map] at htypes
    refine htypes.bind ?_
    have hpresent : (params.map (· == Param.null)).zip ((params.map type).map (·.1)) =
        params.map fun p ↦ (p == .null, p.fieldType.code) := by
      rw [List.map_map, List.zip_map']
      rfl
    rw [hpresent]
    exact (reads_values hfits).map fun values ↦ { execution statementId params with values }

end Param

/-! ## Rows that echo parameters -/

namespace Wire

/-- The row of some cells: which of them are missing, and the bytes of the others. -/
def binaryRow (nulls : List Bool) (values : List Bytes) : Bytes :=
  0x00 :: packBits (false :: false :: nulls) ++ values.flatten

theorem reads_header (count : Nat) {bitmap : Bytes} (h : bitmap.length = (count + 9) / 8) :
    Reads (rowHeader count) (0x00 :: bitmap) bitmap := by
  refine (reads_byte 0x00).bind ?_
  rw [if_neg (not_not_intro rfl)]
  exact reads_bytes h

theorem reads_rowHeader (nulls : List Bool) :
    Reads (rowHeader nulls.length) (0x00 :: packBits (false :: false :: nulls))
      (packBits (false :: false :: nulls)) :=
  reads_header nulls.length (length_packBits _)

section Cells

variable {bitmap data rest : Bytes} {index : Nat} {c : Column} {cs : List Column}
  {b b' : Binding} {bs bs' : List Binding}

theorem decodeCells_missing (h : testBit bitmap (index + 2) = true)
    (hrest : decodeCells bitmap (index + 1) cs bs data = (.ok (), bs')) :
    decodeCells bitmap index (c :: cs) (b :: bs) data = (.ok (), missingCell c b :: bs') := by
  simp only [decodeCells, h, if_true, hrest]

theorem decodeCells_present (h : testBit bitmap (index + 2) = false)
    (hcell : cellReader c b data = (.ok b', rest))
    (hrest : decodeCells bitmap (index + 1) cs bs rest = (.ok (), bs')) :
    decodeCells bitmap index (c :: cs) (b :: bs) data = (.ok (), b' :: bs') := by
  simp only [decodeCells, h, Bool.false_eq_true, if_false, hcell, hrest]

end Cells

end Wire

namespace Param

open Wire

/-- The columns have the types of the parameters. -/
def Typed (columns : List Column) (params : List Param) : Prop :=
  columns.map (fun c ↦ (c.fieldType, c.isUnsigned)) = params.map fun p ↦ (p.fieldType, p.isUnsigned)

theorem Typed.getElem? {columns : List Column} {params : List Param} (h : Typed columns params)
    {n : Nat} {p : Param} (hp : params[n]? = some p) :
    ∃ c, columns[n]? = some c ∧ c.fieldType = p.fieldType ∧ c.isUnsigned = p.isUnsigned := by
  have hn := congrArg (·[n]?) h
  simp only [List.getElem?_map, hp, Option.map_some, Option.map_eq_some_iff, Prod.mk.injEq] at hn
  exact hn

theorem Typed.length_eq {columns : List Column} {params : List Param} (h : Typed columns params) :
    columns.length = params.length := by
  simpa using congrArg List.length h

/-- Columns have the types of the parameters if they have the entries of the table of types. -/
theorem typed_of_types {columns : List Column} {params : List Param}
    (h : columns.map (fun c ↦ (c.fieldType.code, c.isUnsigned)) = params.map type) :
    Typed columns params := by
  have hdecoded := congrArg (List.map fun entry ↦ (FieldType.ofCode entry.1, entry.2)) h
  simpa [Typed, type, Function.comp_def] using hdecoded

/-- A cell that is missing is decoded as if its binding were told so. -/
theorem missingCell_eq {c : Column} (b : Binding) (htype : c.fieldType = .null)
    (hunsigned : c.isUnsigned = false) : missingCell c b = bind b .null := by
  rw [missingCell, htype, hunsigned]
  rfl

/-- Cells with the bytes of some parameters are decoded as if these were given to the bindings. -/
theorem decodeCells_payload {bitmap : Bytes} {columns : List Column} {bindings : List Binding}
    {params : List Param} {index : Nat} (rest : Bytes) (htyped : Typed columns params)
    (hlength : bindings.length = params.length) (hfits : ∀ p ∈ params, p.Fits)
    (hbits : ∀ i (h : i < params.length),
      testBit bitmap (index + i + 2) = (params[i] == Param.null)) :
    decodeCells bitmap index columns bindings (params.flatMap payload ++ rest) =
      (.ok (), bindAll bindings params) := by
  induction params generalizing index columns bindings with
  | nil =>
    obtain rfl := List.length_eq_zero_iff.1 hlength
    cases columns with
    | nil => rfl
    | cons c cs => cases htyped
  | cons p ps ih =>
    obtain ⟨b, bs, rfl⟩ := List.exists_cons_of_length_eq_add_one hlength
    obtain ⟨c, cs, rfl⟩ : ∃ c cs, columns = c :: cs := by
      cases columns with
      | nil => cases htyped
      | cons c cs => exact ⟨c, cs, rfl⟩
    simp only [Typed, List.map_cons, List.cons.injEq, Prod.mk.injEq] at htyped
    obtain ⟨⟨htype, hunsigned⟩, htail⟩ := htyped
    have hhead := hbits 0 (Nat.succ_pos _)
    have htailBits (i : Nat) (h : i < ps.length) :
        testBit bitmap (index + 1 + i + 2) = (ps[i] == Param.null) := by
      have hplace : index + (i + 1) + 2 = index + 1 + i + 2 := by omega
      exact hplace ▸ hbits (i + 1) (Nat.succ_lt_succ h)
    have hrest := ih htail (Nat.succ.inj hlength)
      (fun q hq ↦ hfits q (List.mem_cons_of_mem p hq)) htailBits
    by_cases hp : p = .null
    · subst hp
      rw [bindAll_cons, ← missingCell_eq b htype hunsigned]
      exact decodeCells_missing hhead hrest
    · have hcell := reads_cell b hp (hfits p List.mem_cons_self) htype hunsigned
      rw [bindAll_cons, List.flatMap_cons, List.append_assoc]
      exact decodeCells_present (hhead.trans (beq_false_of_ne hp)) (hcell _) hrest

/-- A row that echoes parameters is decoded as if these were given to the bindings of the row. -/
theorem decodeRow_echo {columns : List Column} {bindings : List Binding} {params : List Param}
    (htyped : Typed columns params) (hlength : bindings.length = params.length)
    (hfits : ∀ p ∈ params, p.Fits) :
    decodeRow (binaryRow (params.map (· == .null)) ((params.filter (· != .null)).map payload))
      columns bindings = (.ok (), bindAll bindings params) := by
  have hcolumns := htyped.length_eq
  have hheader := reads_rowHeader (params.map (· == .null)) (params.flatMap payload)
  rw [List.length_map] at hheader
  have hbits (i : Nat) (h : i < params.length) :
      testBit (packBits (false :: false :: params.map (· == .null))) (0 + i + 2) =
        (params[i] == Param.null) := by
    rw [Nat.zero_add, testBit_packBits _ (by simpa using h)]
    simp
  rw [decodeRow, if_neg (by simp [hlength, hcolumns]), hcolumns, binaryRow,
    flatten_values, hheader]
  have hcells := decodeCells_payload [] htyped hlength hfits hbits
  rwa [List.append_nil] at hcells

end Param

end MariaClient
