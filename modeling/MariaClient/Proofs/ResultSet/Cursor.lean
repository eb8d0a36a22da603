import MariaClient.Proofs.ResultSet.Parameters
import MariaClient.Proofs.Wire.Overwriting

/-!
# Failed moves of the cursor

A row that cannot be decoded is not gone to, but the cells before the broken one have been taken up
by then.  `ResultSet.failed_move` says what a failed move leaves as it was: the number of the row,
and the columns from the broken cell on.
-/

namespace MariaClient

/-! ## Broken rows -/

namespace Wire

/-- The number of cells before the first that cannot be read, of those from number `index` on. -/
def wholeCells (bitmap : Bytes) : Nat → List Column → Bytes → Nat
  | index, c :: cs, data =>
    if testBit bitmap (index + 2) then wholeCells bitmap (index + 1) cs data + 1
    else
      match cellReader c {} data with
      | (.ok _, rest) => wholeCells bitmap (index + 1) cs rest + 1
      | (.error _, _) => 0
  | _, [], _ => 0

/-- The number of cells of a row before the first that cannot be read. -/
def wholeCellsOf (packet : Bytes) (columns : List Column) : Nat :=
  match rowHeader columns.length packet with
  | (.ok bitmap, data) => wholeCells bitmap 0 columns data
  | (.error _, _) => 0

section Decode

variable {bitmap : Bytes} {bs : List Binding} {data : Bytes} {e : Error}

theorem length_decodeCells (index : Nat) (cs : List Column) (bs : List Binding) (data : Bytes) :
    (decodeCells bitmap index cs bs data).2.length = bs.length := by
  induction cs generalizing index bs data with
  | nil => rfl
  | cons c cs ih =>
    cases bs with
    | nil => rfl
    | cons b bs =>
      rw [decodeCells]
      split
      · exact congrArg (· + 1) (ih (index + 1) bs data)
      · split
        next rest _ => exact congrArg (· + 1) (ih (index + 1) bs rest)
        next => rfl

/-- Where the cells break off, the bindings from the broken one on are as they were. -/
theorem decodeCells_broken (index : Nat) (cs : List Column)
    (h : (decodeCells bitmap index cs bs data).1 = .error e) {n : Nat}
    (hn : wholeCells bitmap index cs data ≤ n) :
    (decodeCells bitmap index cs bs data).2[n]? = bs[n]? := by
  induction cs generalizing index bs data n with
  | nil => cases h
  | cons c cs ih =>
    cases bs with
    | nil => cases h
    | cons b bs =>
      rw [decodeCells] at h ⊢
      rw [wholeCells] at hn
      by_cases hbit : testBit bitmap (index + 2) = true
      · rw [if_pos hbit] at h hn ⊢
        obtain ⟨n, rfl⟩ := Nat.exists_eq_add_of_le' (Nat.le_of_add_left_le hn)
        exact ih (index + 1) h (Nat.le_of_succ_le_succ hn)
      · rw [if_neg hbit] at h hn ⊢
        rcases hcell : cellReader c b data with ⟨e' | b', rest⟩
        · rfl
        · obtain ⟨v, hfresh⟩ := cellReader_alike hcell {}
          rw [hfresh] at hn
          rw [hcell] at h
          obtain ⟨n, rfl⟩ := Nat.exists_eq_add_of_le' (Nat.le_of_add_left_le hn)
          exact ih (index + 1) h (Nat.le_of_succ_le_succ hn)

theorem length_decodeRow (packet : Bytes) (columns : List Column) (bs : List Binding) :
    (decodeRow packet columns bs).2.length = bs.length := by
  unfold decodeRow
  split
  · rfl
  · split
    · exact length_decodeCells _ _ _ _
    · rfl

/-- Where a row breaks off, the bindings from the broken cell on are as they were. -/
theorem decodeRow_broken {packet : Bytes} {columns : List Column}
    (h : (decodeRow packet columns bs).1 = .error e) {n : Nat}
    (hn : wholeCellsOf packet columns ≤ n) :
    (decodeRow packet columns bs).2[n]? = bs[n]? := by
  unfold decodeRow at h ⊢
  unfold wholeCellsOf at hn
  split
  · rfl
  next hlength =>
    rw [if_neg hlength] at h
    rcases hheader : rowHeader columns.length packet with ⟨e' | bitmap, data⟩
    · rfl
    · rw [hheader] at h hn
      exact decodeCells_broken 0 columns h hn

end Decode

end Wire

/-! ## Moves -/

namespace ResultSet

open Wire

/-- A move of the cursor. -/
inductive Move
  | next
  | seek (row : Nat)
  deriving DecidableEq, Repr

namespace Move

/-- Moves the cursor. -/
def apply (rs : ResultSet) : Move → Except Error Bool × ResultSet
  | next => rs.next
  | seek row => rs.seek row

/-- The row that a move goes to. -/
def row (rs : ResultSet) : Move → Nat
  | next => (rs.position.map (· + 1)).getD 0
  | seek row => row

end Move

/-- What is left by moves, those that fail among them. -/
def after (rs : ResultSet) (moves : List Move) : ResultSet :=
  moves.foldl (fun rs m ↦ (m.apply rs).2) rs

/-- The result set of a prepared statement, with its cursor on any row and any cells in its
bindings. -/
structure Holds (columns : List Column) (packets : List Bytes) (rs : ResultSet) : Prop where
  columns_eq : rs.columns = columns
  rows_eq : ∃ bs, rs.rows = .binary packets bs

variable {columns : List Column} {packets : List Bytes} {rs rs' : ResultSet}

theorem holds_ofBinary : Holds columns packets (ofBinary columns packets) where
  columns_eq := rfl
  rows_eq := ⟨_, rfl⟩

theorem Holds.load (h : Holds columns packets rs) (row : Nat) :
    Holds columns packets (rs.load row).2 := by
  obtain ⟨hcolumns, bs, hrows⟩ := h
  unfold ResultSet.load
  rw [hrows]
  dsimp only
  split
  · exact ⟨hcolumns, _, rfl⟩
  · exact ⟨hcolumns, _, rfl⟩

/-- A move goes to its row if there is such a row. -/
theorem Move.apply_eq (m : Move) (rs : ResultSet) :
    m.apply rs =
      if m.row rs < rs.rowCount then
        ((rs.load (m.row rs)).1.map fun _ ↦ true, (rs.load (m.row rs)).2)
      else match m with
        | .next => (.ok false, { rs with position := some rs.rowCount })
        | .seek row => (.error (.outOfRange row rs.rowCount), rs) := by
  cases m with
  | next =>
    rw [apply, ResultSet.next, row]
    cases rs.position with
    | none => rfl
    | some p => rfl
  | seek row => rfl

theorem Holds.apply (h : Holds columns packets rs) (m : Move) :
    Holds columns packets (m.apply rs).2 := by
  rw [m.apply_eq]
  split
  · exact h.load _
  · cases m with
    | next => exact ⟨h.columns_eq, h.rows_eq⟩
    | seek row => exact h

theorem Holds.after (h : Holds columns packets rs) (moves : List Move) :
    Holds columns packets (rs.after moves) := by
  induction moves generalizing rs with
  | nil => exact h
  | cons m moves ih => exact ih (h.apply m)

/-- A failed move changes nothing, or goes to a row that breaks off and changes the bindings. -/
theorem Move.apply_failed (h : Holds columns packets rs) {m : Move} {e : Error}
    (hm : (m.apply rs).1 = .error e) :
    (m.apply rs).2 = rs ∨
      ∃ bs bs', rs.rows = .binary packets bs ∧ m.row rs < packets.length ∧
        decodeRow (packets.getD (m.row rs) []) columns bs = (.error e, bs') ∧
        (m.apply rs).2 = { rs with rows := .binary packets bs' } := by
  obtain ⟨rfl, bs, hrows⟩ := h
  rw [m.apply_eq] at hm ⊢
  by_cases hrow : m.row rs < rs.rowCount
  · rw [if_pos hrow] at hm ⊢
    have hcount : rs.rowCount = packets.length := by rw [rowCount, hrows, Rows.count]
    rcases hdecode : decodeRow (packets.getD (m.row rs) []) rs.columns bs with ⟨e' | _, bs'⟩
    · have hload : rs.load (m.row rs) = (.error e', { rs with rows := .binary packets bs' }) := by
        simp only [load, hrows, hdecode]
      rw [hload] at hm ⊢
      cases hm
      exact .inr ⟨bs, bs', hrows, hcount ▸ hrow, hdecode, rfl⟩
    · have hload : (rs.load (m.row rs)).1 = .ok () := by
        simp only [load, hrows, hdecode]
      rw [hload] at hm
      cases hm
  · rw [if_neg hrow] at hm ⊢
    cases m with
    | next => cases hm
    | seek row => exact .inl rfl

/-! ## Accessors -/

section Agree

variable {ref : ColumnRef}

/-- The columns are the same, and so is the cell of one of them. -/
structure Agree (rs rs' : ResultSet) (ref : ColumnRef) : Prop where
  columns : rs'.columns = rs.columns
  cell : ∀ n c, rs.column ref = .ok (n, c) → rs'.cell n = rs.cell n

variable (h : Agree rs rs' ref)

include h

theorem Agree.typed (requested : ValueType) : rs'.typed ref requested = rs.typed ref requested := by
  unfold ResultSet.typed
  rw [column_congr h.columns]
  rcases hcolumn : rs.column ref with e | ⟨n, c⟩
  · rfl
  · rw [bind_ok rfl, bind_ok rfl]
    dsimp only
    rw [h.cell n c hcolumn]

theorem Agree.isNull : rs'.isNull ref = rs.isNull ref := by
  unfold ResultSet.isNull
  rw [column_congr h.columns]
  rcases hcolumn : rs.column ref with e | ⟨n, c⟩
  · rfl
  · rw [bind_ok rfl, bind_ok rfl]
    dsimp only
    rw [h.cell n c hcolumn]

theorem Agree.integer (requested : ValueType) :
    rs'.integer ref requested = rs.integer ref requested := by
  unfold ResultSet.integer
  rw [h.typed]

theorem Agree.getInteger (signed : Bool) (width : IntWidth) :
    rs'.getInteger ref signed width = rs.getInteger ref signed width := by
  unfold ResultSet.getInteger
  rw [h.integer]

theorem Agree.getBytes (requested : ValueType) :
    rs'.getBytes ref requested = rs.getBytes ref requested := by
  unfold ResultSet.getBytes
  rw [h.typed]

theorem Agree.getDecimal : rs'.getDecimal ref = rs.getDecimal ref := by
  unfold ResultSet.getDecimal
  rw [h.typed]

theorem Agree.temporal (requested : ValueType) :
    rs'.temporal ref requested = rs.temporal ref requested := by
  unfold ResultSet.temporal
  rw [h.typed]

theorem Agree.getTime : rs'.getTime ref = rs.getTime ref := by
  unfold ResultSet.getTime
  rw [h.typed]

theorem Agree.getBoolean : rs'.getBoolean ref = rs.getBoolean ref := by
  unfold ResultSet.getBoolean
  rw [h.typed]

theorem Agree.getFloat : rs'.getFloat ref = rs.getFloat ref := by
  unfold ResultSet.getFloat
  rw [h.typed]

theorem Agree.getDouble : rs'.getDouble ref = rs.getDouble ref := by
  unfold ResultSet.getDouble
  rw [h.typed]

omit h

/-- A column that is found is also found by its number. -/
theorem column_number {n : Nat} {c : Column} (h : rs.column ref = .ok (n, c)) :
    rs.column (.index n) = .ok (n, c) :=
  column_index (getElem?_of_column h)

include h

theorem Agree.getValue : rs'.getValue ref = rs.getValue ref := by
  unfold ResultSet.getValue
  rw [column_congr h.columns]
  rcases hcolumn : rs.column ref with e | ⟨n, c⟩
  · rfl
  · have hindex : Agree rs rs' (.index n) := by
      refine ⟨h.columns, ?_⟩
      rintro m d hm
      rw [column_number hcolumn] at hm
      cases hm
      exact h.cell n c hcolumn
    rw [bind_ok rfl, bind_ok rfl]
    dsimp only
    simp only [h.cell n c hcolumn, hindex.getBoolean, hindex.getFloat, hindex.getDouble,
      hindex.integer, hindex.getDecimal, getDate, getDateTime, hindex.temporal, hindex.getTime]

theorem Agree.read (x : Accessor) : rs'.read ref x = rs.read ref x := by
  cases x with
  | isNull => rw [ResultSet.read, h.isNull, ResultSet.read]
  | columnType =>
    rw [ResultSet.read, columnType, column_congr h.columns]
    rfl
  | blob =>
    rw [ResultSet.read, getBlob, h.getBytes]
    rfl
  | data =>
    rw [ResultSet.read, getData, h.getBytes]
    rfl
  | string =>
    rw [ResultSet.read, getString, h.getBytes]
    rfl
  | decimal => rw [ResultSet.read, h.getDecimal, ResultSet.read]
  | date =>
    rw [ResultSet.read, getDate, h.temporal]
    rfl
  | dateTime =>
    rw [ResultSet.read, getDateTime, h.temporal]
    rfl
  | time => rw [ResultSet.read, h.getTime, ResultSet.read]
  | boolean => rw [ResultSet.read, h.getBoolean, ResultSet.read]
  | integer signed width => rw [ResultSet.read, h.getInteger, ResultSet.read]
  | float => rw [ResultSet.read, h.getFloat, ResultSet.read]
  | double => rw [ResultSet.read, h.getDouble, ResultSet.read]
  | value => rw [ResultSet.read, h.getValue, ResultSet.read]

end Agree

/-! ## What a failed move leaves -/

theorem cell_of_no_row (h : rs.rowIndex = none) (n : Nat) : rs.cell n = .error .noRow := by
  unfold cell
  rw [h]

theorem cell_of_binding {bs bs' : List Binding} {n : Nat} (hrows : rs.rows = .binary packets bs)
    (hlength : bs'.length = bs.length) (hn : bs'[n]? = bs[n]?) :
    { rs with rows := .binary packets bs' }.cell n = rs.cell n := by
  have hindex : { rs with rows := .binary packets bs' }.rowIndex = rs.rowIndex := by
    rw [rowIndex, rowIndex, rowCount, rowCount, hrows]
    rfl
  unfold cell
  rw [hindex, hrows]
  dsimp only
  rw [Bindings.get, Bindings.get, hn, hlength]

/-- A move that fails leaves the cursor on its row, and every accessor answers as before for every
column that does not stand before the broken cell of the row that could not be decoded.  Where there
is no current row it answers as before for those too. -/
theorem failed_move (columns : List Column) (packets : List Bytes) (moves : List Move) (m : Move)
    {e : Error} (hm : (m.apply ((ofBinary columns packets).after moves)).1 = .error e) :
    let rs := (ofBinary columns packets).after moves
    let rs' := (m.apply rs).2
    rs'.rowIndex = rs.rowIndex ∧
      ∀ ref, (rs.rowIndex = none ∨ ∀ n c, rs.column ref = .ok (n, c) → m.row rs < rs.rowCount →
          wholeCellsOf (packets.getD (m.row rs) []) columns ≤ n) →
        ∀ x, rs'.read ref x = rs.read ref x := by
  intro rs rs'
  have hholds : Holds columns packets rs := holds_ofBinary.after moves
  rcases Move.apply_failed hholds hm with hsame | ⟨bs, bs', hrows, hrow, hdecode, hleft⟩
  · rw [show rs' = rs from hsame]
    exact ⟨rfl, fun _ _ _ ↦ rfl⟩
  · have hlength : bs'.length = bs.length := by
      have hdecoded := length_decodeRow (packets.getD (m.row rs) []) columns bs
      rwa [hdecode] at hdecoded
    have hindex : rs'.rowIndex = rs.rowIndex := by
      rw [show rs' = _ from hleft, rowIndex, rowIndex, rowCount, rowCount, hrows]
      rfl
    refine ⟨hindex, ?_⟩
    intro ref hspared
    have hagree : Agree rs rs' ref := by
      refine ⟨by rw [show rs' = _ from hleft], ?_⟩
      intro n c hcolumn
      rcases hspared with hnone | hspared
      · rw [cell_of_no_row hnone, cell_of_no_row (hindex.trans hnone)]
      · have hcount : rs.rowCount = packets.length := by rw [rowCount, hrows, Rows.count]
        have hbroken := decodeRow_broken (congrArg Prod.fst hdecode)
          (hspared n c hcolumn (hcount ▸ hrow))
        rw [hdecode] at hbroken
        rw [show rs' = _ from hleft]
        exact cell_of_binding hrows hlength hbroken
    exact hagree.read

/-- Two columns of integers. -/
def pairOfIntegers : List Column :=
  [{ name := "a", fieldType := .long }, { name := "b", fieldType := .long }]

/-- The second row breaks off in its first cell, and both cells of the first are still read. -/
theorem failed_move_firstCell :
    let rs := (ofBinary pairOfIntegers [[0, 0, 1, 0, 0, 0, 2, 0, 0, 0], [0, 0, 9]]).after [.next]
    (Move.next.apply rs).1 = .error (.protocol .tooShort) ∧
      (Move.next.apply rs).2.rowIndex = some 0 ∧
      (Move.next.apply rs).2.read (.index 0) (.integer true .w32) = .ok (.integer .w32 1) := by
  intro rs
  have hfailed : (Move.next.apply rs).1 = .error (.protocol .tooShort) := by decide +kernel
  obtain ⟨hindex, hread⟩ := failed_move pairOfIntegers _ [.next] .next hfailed
  refine ⟨hfailed, hindex.trans (by decide +kernel), ?_⟩
  exact (hread (.index 0) (.inr fun _ _ _ _ ↦ Nat.zero_le _) _).trans (by decide +kernel)

/-- The second row breaks off in its second cell.  The cursor stays on the first row, whose first
cell is read as that of the second row. -/
theorem failed_move_secondCell :
    let rs := (ofBinary pairOfIntegers
      [[0, 0, 1, 0, 0, 0, 2, 0, 0, 0], [0, 0, 9, 0, 0, 0, 2]]).after [.next]
    (Move.next.apply rs).1 = .error (.protocol .tooShort) ∧
      (Move.next.apply rs).2.rowIndex = some 0 ∧
      rs.read (.index 0) (.integer true .w32) = .ok (.integer .w32 1) ∧
      (Move.next.apply rs).2.read (.index 0) (.integer true .w32) = .ok (.integer .w32 9) :=
  ⟨rfl, rfl, rfl, rfl⟩

end ResultSet

end MariaClient
