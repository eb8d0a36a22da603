import Mathlib.Data.List.Forall2
import MariaClient.Proofs.Wire.Execution

/-!
# Rows of cells

A row each of whose cells can be read is decoded, and each binding takes what its cell says
(`decodeRow_cellRow`).  The cells are what a server can write, and need not be what the writer of a
command would have written.
-/

namespace MariaClient.Wire

open Temporal

/-- The bytes are a cell of the column, whatever its binding held before.  A missing cell has no
bytes. -/
def IsCell (c : Column) : Option Bytes → Prop
  | none => True
  | some data => ∀ b, ∃ b', Reads (cellReader c b) data b'

/-- The row of some cells. -/
def cellRow (cells : List (Option Bytes)) : Bytes :=
  binaryRow (cells.map Option.isNone) (cells.filterMap id)

/-- Bindings that have taken the cells of a row, each of them whatever it held before. -/
inductive Taken : List Column → List (Option Bytes) → List Binding → Prop
  | nil : Taken [] [] []
  | missing {c : Column} {b : Binding} {columns : List Column} {cells : List (Option Bytes)}
    {bs : List Binding} (h : Taken columns cells bs) :
    Taken (c :: columns) (none :: cells) (missingCell c b :: bs)
  | present {c : Column} {b b' : Binding} {data : Bytes} {columns : List Column}
    {cells : List (Option Bytes)} {bs : List Binding} (hcell : Reads (cellReader c b) data b')
    (h : Taken columns cells bs) :
    Taken (c :: columns) (some data :: cells) (b' :: bs)

variable {columns : List Column} {cells : List (Option Bytes)} {bs : List Binding} {c : Column}
  {data : Bytes}

/-- The binding of a cell that is not missing. -/
theorem Taken.getElem? (h : Taken columns cells bs) {n : Nat} (hc : columns[n]? = some c)
    (hdata : cells[n]? = some (some data)) :
    ∃ b b', bs[n]? = some b' ∧ Reads (cellReader c b) data b' := by
  induction h generalizing n with
  | nil => cases hc
  | missing _ ih =>
    cases n with
    | zero => cases hdata
    | succ n => exact ih hc hdata
  | present hcell _ ih =>
    cases n with
    | zero =>
      cases hc
      cases hdata
      exact ⟨_, _, rfl, hcell⟩
    | succ n => exact ih hc hdata

/-- The binding of a cell that is missing. -/
theorem Taken.getElem?_missing (h : Taken columns cells bs) {n : Nat} (hc : columns[n]? = some c)
    (hmissing : cells[n]? = some none) : ∃ b, bs[n]? = some (missingCell c b) := by
  induction h generalizing n with
  | nil => cases hc
  | missing _ ih =>
    cases n with
    | zero =>
      cases hc
      exact ⟨_, rfl⟩
    | succ n => exact ih hc hmissing
  | present _ _ ih =>
    cases n with
    | zero => cases hmissing
    | succ n => exact ih hc hmissing

theorem Taken.length_eq (h : Taken columns cells bs) : bs.length = columns.length := by
  induction h with
  | nil => rfl
  | missing _ ih => exact congrArg Nat.succ ih
  | present _ _ ih => exact congrArg Nat.succ ih

/-- The bits of some cells are that of the first cell and those of the others. -/
theorem testBit_cons {α : Type} {bitmap : Bytes} {index : Nat} {cell : Option α}
    {cells : List (Option α)}
    (hbits : ∀ i (h : i < (cell :: cells).length),
      testBit bitmap (index + i + 2) = (cell :: cells)[i].isNone) :
    testBit bitmap (index + 2) = cell.isNone ∧
      ∀ i (h : i < cells.length), testBit bitmap (index + 1 + i + 2) = cells[i].isNone := by
  constructor
  · exact hbits 0 (Nat.succ_pos _)
  · intro i h
    have hplace : index + (i + 1) + 2 = index + 1 + i + 2 := by omega
    exact hplace ▸ hbits (i + 1) (Nat.succ_lt_succ h)

/-- Cells that can be read are taken one after the other. -/
theorem decodeCells_taken {bitmap : Bytes} {index : Nat} (rest : Bytes)
    (hcells : List.Forall₂ IsCell columns cells) (hlength : bs.length = columns.length)
    (hbits : ∀ i (h : i < cells.length), testBit bitmap (index + i + 2) = cells[i].isNone) :
    ∃ bs', decodeCells bitmap index columns bs ((cells.filterMap id).flatten ++ rest) =
        (.ok (), bs') ∧
      Taken columns cells bs' := by
  induction hcells generalizing index bs with
  | nil =>
    obtain rfl := List.length_eq_zero_iff.1 hlength
    exact ⟨[], rfl, .nil⟩
  | @cons c cell columns cells hcell _ ih =>
    obtain ⟨b, bs, rfl⟩ := List.exists_cons_of_length_eq_add_one hlength
    obtain ⟨hhead, htail⟩ := testBit_cons hbits
    obtain ⟨bs', hrest, htaken⟩ := ih (Nat.succ.inj hlength) htail
    cases cell with
    | none => exact ⟨_, decodeCells_missing hhead hrest, .missing htaken⟩
    | some data =>
      obtain ⟨b', hreads⟩ := hcell b
      have hpayload : ((some data :: cells).filterMap id).flatten ++ rest =
          data ++ ((cells.filterMap id).flatten ++ rest) := by
        exact List.append_assoc data _ rest
      refine ⟨b' :: bs', ?_, .present hreads htaken⟩
      rw [hpayload]
      exact decodeCells_present hhead (hreads _) hrest

/-- A row whose cells can be read is decoded. -/
theorem decodeRow_cellRow (hcells : List.Forall₂ IsCell columns cells)
    (hlength : bs.length = columns.length) :
    ∃ bs', decodeRow (cellRow cells) columns bs = (.ok (), bs') ∧ Taken columns cells bs' := by
  have hcount : columns.length = (cells.map Option.isNone).length := by
    rw [List.length_map, hcells.length_eq]
  have hbits (i : Nat) (h : i < cells.length) :
      testBit (packBits (false :: false :: cells.map Option.isNone)) (0 + i + 2) =
        cells[i].isNone := by
    rw [Nat.zero_add, testBit_packBits _ (by simpa using h)]
    simp
  obtain ⟨bs', hdecode, htaken⟩ := decodeCells_taken [] hcells hlength hbits
  rw [List.append_nil] at hdecode
  refine ⟨bs', ?_, htaken⟩
  rw [decodeRow, if_neg (not_not_intro hlength), cellRow, binaryRow, hcount,
    reads_rowHeader (cells.map Option.isNone) (cells.filterMap id).flatten]
  exact hdecode

/-! ## Temporal cells -/

theorem Reads.unique {α : Type} {r : Reader α} {a a' : α} (h : Reads r data a)
    (h' : Reads r data a') : a = a' := by
  have hsame := (h []).symm.trans (h' [])
  cases hsame
  rfl

/-- A cell of a temporal type is the value that its bytes tell. -/
theorem reads_cell_temporal (ht : c.fieldType.isTemporal = true) {t : WireTime}
    (h : Reads (temporalReader c.fieldType) data t) (b : Binding) :
    Reads (cellReader c b) data (b.setTime c.fieldType t) := by
  rw [cellReader_temporal b ht]
  exact h.map (b.setTime c.fieldType)

/-- The binding of a temporal cell is present and holds its value. -/
theorem Taken.temporal (h : Taken columns cells bs) {n : Nat} (hc : columns[n]? = some c)
    (hdata : cells[n]? = some (some data)) (ht : c.fieldType.isTemporal = true) {t : WireTime}
    (hreads : Reads (temporalReader c.fieldType) data t) :
    ∃ b, bs[n]? = some b ∧ b.isNull = false ∧ b.time = t := by
  obtain ⟨b, b', hb, hcell⟩ := h.getElem? hc hdata
  obtain rfl := (reads_cell_temporal ht hreads b).unique hcell
  have hpresent : (c.fieldType == .null) = false := by
    cases hnull : c.fieldType with
    | null => rw [hnull] at ht; cases ht
    | _ => rfl
  refine ⟨_, hb, ?_, ?_⟩
  · rw [b.setTime_eq ht]
    exact hpresent
  · rw [b.setTime_eq ht]

end MariaClient.Wire
