import MariaClient.Proofs.Wire.ServerPacket
import MariaClient.Proofs.Wire.Short

/-!
# Rows of texts

A length-encoded number tells its own width, so that it is read back in front of any bytes, and a
row is a chain of such numbers with the texts behind them.  So a row is read back exactly, and
refused wherever it breaks off (`textRow_read_back`).
-/

namespace MariaClient.Wire

theorem short_textCell {cell : Option Bytes} (h : ∀ bs ∈ cell, bs.length < 2 ^ 64) :
    Short Reader.lenEncBytes (textCell cell) := by
  cases cell with
  | none => exact short_lenEncBytes_none
  | some bs => exact short_lenEncBytes (h bs rfl)

/-- A row of texts is refused where it breaks off. -/
theorem short_textRowPacket {cells : List (Option Bytes)}
    (h : ∀ bs, some bs ∈ cells → bs.length < 2 ^ 64) :
    Short (Reader.times Reader.lenEncBytes cells.length) (textRowPacket cells) := by
  have hcells (cell : Option Bytes) (hcell : cell ∈ cells) : ∀ bs ∈ cell, bs.length < 2 ^ 64 :=
    fun bs hbs ↦ h bs (hbs ▸ hcell)
  exact short_times (fun cell hcell ↦ reads_textCell (hcells cell hcell))
    fun cell hcell ↦ short_textCell (hcells cell hcell)

/-- A length-encoded number is read back in front of any bytes, which are left as they are, and is
refused where it breaks off.  So is a row of texts, some of which may be missing. -/
theorem textRow_read_back :
    (∀ n < 2 ^ 64, (∀ rest, Reader.lenEncInt (lenEncInt n ++ rest) = (.ok (some n), rest)) ∧
      ∀ packet, packet <+: lenEncInt n → packet ≠ lenEncInt n →
        Reader.lenEncInt.run packet = .error (.protocol .tooShort)) ∧
    ∀ cells : List (Option Bytes), (∀ bs, some bs ∈ cells → bs.length < 2 ^ 64) →
      (∀ rest, textRow cells.length (textRowPacket cells ++ rest) = .ok cells) ∧
      ∀ packet, packet <+: textRowPacket cells → packet ≠ textRowPacket cells →
        textRow cells.length packet = .error (.protocol .tooShort) := by
  constructor
  · intro n hn
    exact ⟨reads_lenEncInt hn, fun _ ↦ (short_lenEncInt n).run_beginning⟩
  · intro cells hcells
    exact ⟨(reads_textRowPacket hcells).run, fun _ ↦ (short_textRowPacket hcells).run_beginning⟩

/-- The numbers on both sides of a change of width, and a row of a missing text, an empty one and
one whose length takes three bytes, with the mark of a missing text behind it and without its last
byte. -/
theorem textRow_read_back_widths :
    let cells : List (Option Bytes) := [none, some [], some (List.replicate 251 0xfb)]
    Reader.lenEncInt [250, 7] = (.ok (some 250), [7]) ∧
      Reader.lenEncInt [0xfc, 251, 0, 7] = (.ok (some 251), [7]) ∧
      Reader.lenEncInt.run [0xfd, 0, 0] = .error (.protocol .tooShort) ∧
      textRowPacket cells = [0xfb, 0, 0xfc, 251, 0] ++ List.replicate 251 0xfb ∧
      textRow 3 (textRowPacket cells ++ [0xfb]) = .ok cells ∧
      textRow 3 (textRowPacket cells).dropLast = .error (.protocol .tooShort) := by
  intro cells
  have hcells : ∀ bs, some bs ∈ cells → bs.length < 2 ^ 64 := by
    simp only [cells, List.mem_cons, Option.some.injEq, reduceCtorEq, false_or, List.not_mem_nil,
      or_false]
    rintro bs (rfl | rfl)
    · decide
    · rw [List.length_replicate]
      decide
  have hbytes : textRowPacket cells = [0xfb, 0, 0xfc, 251, 0] ++ List.replicate 251 0xfb := by
    decide +kernel
  have hlast : (textRowPacket cells).dropLast ≠ textRowPacket cells := by
    rw [hbytes]
    decide +kernel
  obtain ⟨hnumbers, hrows⟩ := textRow_read_back
  obtain ⟨hread, hbroken⟩ := hrows cells hcells
  refine ⟨(hnumbers 250 (by decide)).1 [7], (hnumbers 251 (by decide)).1 [7],
    (hnumbers 65536 (by decide)).2 _ ?_ ?_, hbytes, hread [0xfb],
    hbroken _ (List.dropLast_prefix _) hlast⟩
  · decide
  · decide

end MariaClient.Wire
