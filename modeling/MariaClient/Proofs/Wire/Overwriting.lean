import Mathlib.Data.List.Forall2
import MariaClient.Proofs.Wire.Parameter

/-!
# Bindings that are written over

All rows of a prepared statement are decoded into the same bindings.  What a cell says is told by its
bytes alone (`cellReader_eq`), and it sets every part of its binding anew but for the temporal one.
Under a column that has no use for it this part is empty from the start and stays so (`Clean`).  So
nothing is left of the rows before: `decodeRow_congr`.
-/

namespace MariaClient

namespace Binding

variable {b b' : Binding} {fieldType : FieldType} {data : Option Wire.Bytes} {length : Nat}
  {unsigned : Bool}

/-- Of what a binding held only the temporal part can be left. -/
theorem set_congr (h : fieldType.isTemporal = false → b.time = b'.time) :
    b.set fieldType data length unsigned = b'.set fieldType data length unsigned := by
  unfold set
  cases ht : fieldType.isTemporal with
  | true =>
    rw [FieldType.fixedWidth_of_isTemporal ht]
    rfl
  | false => simp only [h ht]

/-- A type that is not temporal leaves the temporal part alone. -/
theorem time_set (ht : fieldType.isTemporal = false) :
    (b.set fieldType data length unsigned).time = b.time := by
  unfold set
  rw [ht]
  split
  · rfl
  · dsimp only
    rw [if_neg Bool.false_ne_true]
    split
    · rfl
    · rfl

end Binding

namespace Wire

/-! ## Cells -/

/-- What is given to a binding of a column may depend on its temporal part only, and only if the type
of the column is not temporal.  This part is then left alone. -/
structure Overwrites {α : Type} (c : Column) (give : Binding → α → Binding) : Prop where
  congr : ∀ {b b' : Binding}, (c.fieldType.isTemporal = false → b.time = b'.time) →
    ∀ a, give b a = give b' a
  time_eq : c.fieldType.isTemporal = false → ∀ b a, (give b a).time = b.time

/-- Whether a cell can be read, and what it says, does not depend on its binding. -/
theorem cellReader_eq (c : Column) :
    ∃ (α : Type) (payload : Reader α) (give : Binding → α → Binding),
      (∀ b, cellReader c b = do return give b (← payload)) ∧ Overwrites c give := by
  by_cases hnull : c.fieldType = .null
  · refine ⟨Unit, pure (), fun b _ ↦ b.setNull, fun b ↦ ?_, ?_, ?_⟩
    · simp only [cellReader, hnull]
      rfl
    · intro b b' h _
      exact Binding.set_congr (hnull ▸ h)
    · intro _ b _
      exact Binding.time_set rfl
  by_cases hbit : c.fieldType = .bit
  · refine ⟨_, Reader.lenEncBytes,
      fun b bits ↦ b.set .bit (some [if (bits.getD []).any (· != 0) then 1 else 0]) 1 true,
      fun b ↦ ?_, ?_, ?_⟩
    · simp only [cellReader, hbit]
    · intro b b' h _
      exact Binding.set_congr (hbit ▸ h)
    · intro _ b _
      exact Binding.time_set rfl
  cases ht : c.fieldType.isTemporal with
  | true =>
    refine ⟨_, _, _, fun b ↦ cellReader_temporal b ht, ?_, ?_⟩
    · intro b b' _ t
      rw [b.setTime_eq ht, b'.setTime_eq ht]
    · intro h
      cases ht.symm.trans h
  | false =>
    cases hw : c.fieldType.fixedWidth with
    | some width =>
      refine ⟨_, _, _, fun b ↦ cellReader_fixed b hw hnull hbit, ?_, ?_⟩
      · intro b b' h _
        exact Binding.set_congr h
      · intro _ b _
        exact Binding.time_set ht
    | none =>
      refine ⟨_, _, fun b data ↦ _, fun b ↦ cellReader_bytes b hw ht, ?_, ?_⟩
      · intro b b' h _
        exact congrArg (Binding.setIsNull · false) (Binding.set_congr h)
      · intro _ b _
        exact Binding.time_set ht

/-- Whether a cell can be read, and where it ends, does not depend on what its binding held. -/
theorem cellReader_alike {c : Column} {b v : Binding} {data rest : Bytes}
    (h : cellReader c b data = (.ok v, rest)) (b' : Binding) :
    ∃ v', cellReader c b' data = (.ok v', rest) := by
  obtain ⟨α, payload, give, hreader, -⟩ := cellReader_eq c
  rw [hreader] at h ⊢
  rcases hpayload : payload data with ⟨e | w, rest'⟩
  · rw [Attempt.bind_apply_error hpayload] at h
    cases h
  · rw [Attempt.bind_apply_ok hpayload] at h ⊢
    cases h
    exact ⟨_, rfl⟩

/-- A binding holds a temporal value only under a column of a temporal type. -/
def Clean (c : Column) (b : Binding) : Prop :=
  c.fieldType.isTemporal = false → b.time = {}

section Clean

variable {c : Column} {b b' : Binding}

theorem Clean.time_eq (h : Clean c b) (h' : Clean c b') :
    c.fieldType.isTemporal = false → b.time = b'.time :=
  fun ht ↦ (h ht).trans (h' ht).symm

theorem Clean.missingCell_eq (h : Clean c b) (h' : Clean c b') :
    missingCell c b = missingCell c b' :=
  congrArg (Binding.setIsNull · true) (Binding.set_congr (h.time_eq h'))

theorem Clean.missingCell (h : Clean c b) : Clean c (missingCell c b) :=
  fun ht ↦ (Binding.time_set ht).trans (h ht)

theorem Clean.cellReader_eq (h : Clean c b) (h' : Clean c b') : cellReader c b = cellReader c b' := by
  obtain ⟨α, payload, give, hreader, hgive⟩ := Wire.cellReader_eq c
  rw [hreader, hreader, funext (hgive.congr (h.time_eq h'))]

theorem Clean.cellReader (h : Clean c b) {data rest : Bytes} {v : Binding}
    (hcell : cellReader c b data = (.ok v, rest)) : Clean c v := by
  intro ht
  obtain ⟨α, payload, give, hreader, hgive⟩ := Wire.cellReader_eq c
  rw [hreader] at hcell
  rcases hpayload : payload data with ⟨e | w, rest'⟩
  · rw [Attempt.bind_apply_error hpayload] at hcell
    cases hcell
  · rw [Attempt.bind_apply_ok hpayload] at hcell
    cases hcell
    exact (hgive.time_eq ht b w).trans (h ht)

theorem clean_fresh (columns : List Column) :
    List.Forall₂ Clean columns (Bindings.fresh columns.length) := by
  induction columns with
  | nil => exact .nil
  | cons c columns ih => exact .cons (fun _ ↦ rfl) ih

end Clean

/-! ## Rows -/

section Rows

variable {columns : List Column} {bs bs' : List Binding} {bitmap data packet : Bytes} {index : Nat}

theorem clean_decodeCells (h : List.Forall₂ Clean columns bs) :
    List.Forall₂ Clean columns (decodeCells bitmap index columns bs data).2 := by
  induction h generalizing index data with
  | nil => exact .nil
  | @cons c b columns bs hb hbs ih =>
    rw [decodeCells]
    split
    · exact .cons hb.missingCell ih
    · split
      next hcell => exact .cons (hb.cellReader hcell) ih
      next => exact .cons hb hbs

/-- Cells that are all decoded leave nothing of what their bindings held. -/
theorem decodeCells_congr (h : List.Forall₂ Clean columns bs)
    (h' : List.Forall₂ Clean columns bs')
    (hok : (decodeCells bitmap index columns bs data).1 = .ok ()) :
    decodeCells bitmap index columns bs' data = decodeCells bitmap index columns bs data := by
  induction h generalizing index data bs' with
  | nil =>
    cases h'
    rfl
  | @cons c b columns bs hb _ ih =>
    obtain ⟨b', bs', hb', hbs', rfl⟩ := List.forall₂_cons_left_iff.1 h'
    rw [decodeCells] at hok ⊢
    rw [decodeCells, hb'.missingCell_eq hb, hb'.cellReader_eq hb]
    by_cases hbit : testBit bitmap (index + 2) = true
    · rw [if_pos hbit] at hok
      rw [if_pos hbit, if_pos hbit, ih hbs' hok]
    · rw [if_neg hbit] at hok
      rw [if_neg hbit, if_neg hbit]
      rcases hcell : Wire.cellReader c b data with ⟨e | v, rest⟩
      · rw [hcell] at hok
        cases hok
      · rw [hcell] at hok
        dsimp only
        rw [ih hbs' hok]

theorem clean_decodeRow (h : List.Forall₂ Clean columns bs) :
    List.Forall₂ Clean columns (decodeRow packet columns bs).2 := by
  unfold decodeRow
  split
  · exact h
  · split
    · exact clean_decodeCells h
    · exact h

/-- A row that is decoded leaves nothing of the rows before. -/
theorem decodeRow_congr (h : List.Forall₂ Clean columns bs) (h' : List.Forall₂ Clean columns bs')
    (hok : (decodeRow packet columns bs).1 = .ok ()) :
    decodeRow packet columns bs' = decodeRow packet columns bs := by
  unfold decodeRow at hok ⊢
  rw [if_neg (not_not_intro h.length_eq.symm)] at hok
  rw [if_neg (not_not_intro h.length_eq.symm), if_neg (not_not_intro h'.length_eq.symm)]
  rcases hheader : rowHeader columns.length packet with ⟨e | bitmap, data⟩
  · rw [hheader] at hok
    cases hok
  · rw [hheader] at hok
    exact decodeCells_congr h h' hok

end Rows

end Wire

end MariaClient
