import MariaClient.Proofs.ResultSet.Cursor

/-!
# Rows that the cursor comes back to

The cursor shows the row that it says it is on, by whichever way it came there.  For any two states
of a result set with the same rows are brought to one and the same state by going to a row
(`ResultSet.SameRows.load`), so the way before it does not matter.  `ResultSet.shows_row` says this
for all moves of the cursor, and in which order they visit the rows.
-/

namespace MariaClient

open Wire

/-! ## Accessors without a row -/

/-- The type in which an accessor reads a cell, if it asks for one. -/
def Accessor.requested : Accessor → Option ValueType
  | isNull => none
  | columnType => none
  | blob => some .blob
  | data => some .data
  | string => some .string
  | decimal => some .decimal
  | date => some .date
  | dateTime => some .dateTime
  | time => some .time
  | boolean => some .boolean
  | integer signed width => some (.integer signed width)
  | float => some .float32
  | double => some .double64
  | value => none

/-- An accessor may read the cells of a column. -/
def Accessor.Reads (x : Accessor) (c : Column) : Prop :=
  x ≠ .columnType ∧ ∀ t ∈ x.requested, t.compatible c.valueType = true

namespace ResultSet

section NoRow

variable {rs : ResultSet} {ref : ColumnRef} {n : Nat} {c : Column}

theorem typed_of_no_row (hrow : rs.rowIndex = none) (hcolumn : rs.column ref = .ok (n, c))
    {requested : ValueType} (h : requested.compatible c.valueType = true) :
    rs.typed ref requested = .error .noRow := by
  refine (bind_ok hcolumn _).trans ((bind_ok (if_pos h) _).trans ?_)
  rw [cell_of_no_row hrow]
  rfl

/-- Where there is no current row, every accessor that may read a column says so. -/
theorem read_of_no_row (hrow : rs.rowIndex = none) (hcolumn : rs.column ref = .ok (n, c))
    {x : Accessor} (hx : x.Reads c) : rs.read ref x = .error .noRow := by
  have htyped (t : ValueType) (ht : x.requested = some t) :
      rs.typed ref t = .error .noRow := typed_of_no_row hrow hcolumn (hx.2 t ht)
  cases x with
  | isNull =>
    rw [read, isNull, hcolumn, bind_ok rfl]
    dsimp only
    rw [cell_of_no_row hrow]
    rfl
  | columnType => exact absurd rfl hx.1
  | value =>
    rw [read, getValue, hcolumn, bind_ok rfl]
    dsimp only
    rw [cell_of_no_row hrow]
    rfl
  | blob => rw [read, getBlob, getBytes, htyped _ rfl]; rfl
  | data => rw [read, getData, getBytes, htyped _ rfl]; rfl
  | string => rw [read, getString, getBytes, htyped _ rfl]; rfl
  | decimal => rw [read, getDecimal, htyped _ rfl]; rfl
  | date => rw [read, getDate, temporal, htyped _ rfl]; rfl
  | dateTime => rw [read, getDateTime, temporal, htyped _ rfl]; rfl
  | time => rw [read, getTime, htyped _ rfl]; rfl
  | boolean => rw [read, getBoolean, htyped _ rfl]; rfl
  | integer signed width => rw [read, getInteger, integer, htyped _ rfl]; rfl
  | float => rw [read, getFloat, htyped _ rfl]; rfl
  | double => rw [read, getDouble, htyped _ rfl]; rfl

end NoRow

/-! ## Going to a row -/

/-- A result set before its first row, all of whose rows can be gone to. -/
inductive Whole : ResultSet → Prop
  | text (columns : List Column) (rows : List (List (Option Bytes))) : Whole (ofText columns rows)
  | binary {columns : List Column} {packets : List Bytes}
    (decodes : ∀ packet ∈ packets,
      (decodeRow packet columns (Bindings.fresh columns.length)).1 = .ok ()) :
    Whole (ofBinary columns packets)

/-- Two states of a result set.  They may differ in the place of the cursor, and in the bindings
into which rows are decoded. -/
inductive SameRows : ResultSet → ResultSet → Prop
  | text {columns : List Column} {rows : List (List (Option Bytes))} {p p' : Option Nat} :
    SameRows { columns, rows := .text rows, position := p }
      { columns, rows := .text rows, position := p' }
  | binary {columns : List Column} {packets : List Bytes} {bs bs' : List Binding}
    {p p' : Option Nat}
    (decodes : ∀ packet ∈ packets,
      (decodeRow packet columns (Bindings.fresh columns.length)).1 = .ok ())
    (clean : List.Forall₂ Clean columns bs) (clean' : List.Forall₂ Clean columns bs') :
    SameRows { columns, rows := .binary packets bs, position := p }
      { columns, rows := .binary packets bs', position := p' }

section SameRows

variable {start rs rs' : ResultSet}

theorem Whole.sameRows (h : Whole start) : SameRows start start := by
  cases h with
  | text columns rows => exact .text
  | binary decodes => exact .binary decodes (clean_fresh _) (clean_fresh _)

theorem Whole.position_eq (h : Whole start) : start.position = none := by
  cases h with
  | text columns rows => rfl
  | binary decodes => rfl

theorem SameRows.rowCount_eq (h : SameRows rs rs') : rs.rowCount = rs'.rowCount := by
  cases h with
  | text => rfl
  | binary => rfl

/-- The cursor may stand anywhere. -/
theorem SameRows.moved (h : SameRows rs rs') (p : Option Nat) :
    SameRows { rs with position := p } rs' := by
  cases h with
  | text => exact .text
  | binary decodes clean clean' => exact .binary decodes clean clean'

/-- Going to a row leaves the same state whatever was there before. -/
theorem SameRows.load (h : SameRows rs rs') {row : Nat} (hrow : row < rs.rowCount) :
    ∃ shown, rs.load row = (.ok (), shown) ∧ rs'.load row = (.ok (), shown) ∧
      SameRows shown rs' ∧ shown.position = some row := by
  cases h with
  | text => exact ⟨_, rfl, rfl, .text, rfl⟩
  | @binary columns packets bs bs' p p' decodes clean clean' =>
    have hfresh : (decodeRow (packets.getD row []) columns (Bindings.fresh columns.length)).1 =
        .ok () := by
      have hlt : row < packets.length := hrow
      rw [List.getD_eq_getElem?_getD, List.getElem?_eq_getElem hlt]
      exact decodes _ (List.getElem_mem hlt)
    have hsame {cells : List Binding} (hcells : List.Forall₂ Clean columns cells) :=
      decodeRow_congr (clean_fresh columns) hcells hfresh
    have hclean : List.Forall₂ Clean columns
        (decodeRow (packets.getD row []) columns (Bindings.fresh columns.length)).2 :=
      clean_decodeRow (clean_fresh columns)
    rcases hdecode : decodeRow (packets.getD row []) columns (Bindings.fresh columns.length) with
      ⟨r, decoded⟩
    rw [hdecode] at hfresh hclean
    obtain rfl : r = .ok () := hfresh
    refine ⟨{ columns, rows := .binary packets decoded, position := some row }, ?_, ?_,
      .binary decodes hclean clean', rfl⟩
    · simp only [ResultSet.load, hsame clean, hdecode]
    · simp only [ResultSet.load, hsame clean', hdecode]

/-! ## Moves -/

/-- A move to a row that there is leaves the state that a seek from the start leaves. -/
theorem SameRows.apply_of_lt (h : SameRows rs start) {m : Move} (hrow : m.row rs < start.rowCount) :
    ∃ shown, m.apply rs = (.ok true, shown) ∧ start.seek (m.row rs) = (.ok true, shown) ∧
      SameRows shown start ∧ shown.rowIndex = some (m.row rs) := by
  have hlt : m.row rs < rs.rowCount := h.rowCount_eq ▸ hrow
  obtain ⟨shown, hload, hstart, hrows, hposition⟩ := h.load hlt
  refine ⟨shown, ?_, ?_, hrows, ?_⟩
  · rw [m.apply_eq, if_pos hlt, hload]
    rfl
  · rw [seek, if_pos hrow, hstart]
    rfl
  · rw [rowIndex, hposition, hrows.rowCount_eq]
    exact if_pos (decide_eq_true hrow)

/-- Past the last row a step leaves the cursor there. -/
theorem SameRows.next_of_le (h : SameRows rs start) (hrow : start.rowCount ≤ Move.next.row rs) :
    rs.next = (.ok false, { rs with position := some start.rowCount }) := by
  rw [show rs.next = Move.next.apply rs from rfl, Move.apply_eq, h.rowCount_eq,
    if_neg (Nat.not_lt.2 hrow)]

/-- A seek past the last row leaves the cursor where it is. -/
theorem SameRows.seek_of_le (h : SameRows rs start) (row : Nat) (hrow : start.rowCount ≤ row) :
    rs.seek row = (.error (.outOfRange row start.rowCount), rs) := by
  rw [seek, h.rowCount_eq, if_neg (Nat.not_lt.2 hrow)]

theorem rowIndex_past (rs : ResultSet) (h : rs.position = some rs.rowCount) :
    rs.rowIndex = none := by
  rw [rowIndex, h]
  exact if_neg (by simp)

/-- The cursor shows the row that it says it is on, as a seek from the start shows it. -/
structure Shows (start rs : ResultSet) : Prop where
  rows : SameRows rs start
  row : ∀ p, rs.rowIndex = some p → start.seek p = (.ok true, rs)

theorem Whole.shows (h : Whole start) : Shows start start where
  rows := h.sameRows
  row p hp := by
    rw [rowIndex, h.position_eq] at hp
    cases hp

theorem Shows.apply (h : Shows start rs) (m : Move) : Shows start (m.apply rs).2 := by
  rcases Nat.lt_or_ge (m.row rs) start.rowCount with hrow | hrow
  · obtain ⟨shown, happly, hseek, hrows, hindex⟩ := h.rows.apply_of_lt hrow
    rw [happly]
    refine ⟨hrows, ?_⟩
    intro p hp
    cases hindex.symm.trans hp
    exact hseek
  · cases m with
    | seek row =>
      have hstay := h.rows.seek_of_le row hrow
      rw [Move.apply, hstay]
      exact h
    | next =>
      rw [Move.apply, h.rows.next_of_le hrow]
      refine ⟨h.rows.moved _, ?_⟩
      intro p hp
      have hnone := rowIndex_past { rs with position := some start.rowCount }
        (congrArg some (h.rows.moved _).rowCount_eq.symm)
      cases hnone.symm.trans hp

theorem Shows.after (h : Shows start rs) (moves : List Move) : Shows start (rs.after moves) := by
  induction moves generalizing rs with
  | nil => exact h
  | cons m moves ih => exact ih (h.apply m)

/-! ## Steps -/

/-- A step goes to the next row, or past the last one. -/
theorem SameRows.next_eq (h : SameRows rs start) :
    rs.next.1 = .ok (decide (Move.next.row rs < start.rowCount)) ∧
      rs.next.2.position = some (min (Move.next.row rs) start.rowCount) ∧
      rs.next.2.rowIndex =
        if Move.next.row rs < start.rowCount then some (Move.next.row rs) else none := by
  rcases Nat.lt_or_ge (Move.next.row rs) start.rowCount with hrow | hrow
  · obtain ⟨shown, happly, -, -, hindex⟩ := h.apply_of_lt hrow
    have hposition : shown.position = some (Move.next.row rs) :=
      (Option.filter_eq_some_iff.1 hindex).1
    rw [show rs.next = Move.next.apply rs from rfl, happly, if_pos hrow, decide_eq_true hrow,
      Nat.min_eq_left hrow.le]
    exact ⟨rfl, hposition, hindex⟩
  · rw [h.next_of_le hrow, if_neg (Nat.not_lt.2 hrow), decide_eq_false (Nat.not_lt.2 hrow),
      Nat.min_eq_right hrow]
    exact ⟨rfl, rfl, rowIndex_past _ (congrArg some (h.moved _).rowCount_eq.symm)⟩

theorem Move.row_next {p : Nat} (h : rs.position = some p) : Move.next.row rs = p + 1 := by
  rw [row, h]
  rfl

/-- After some steps from the start the next one is to the row of their number, and once past the
last row it stays there. -/
theorem Whole.row_after_steps (h : Whole start) (k : Nat) :
    Move.next.row (start.after (List.replicate k .next)) = min k (start.rowCount + 1) := by
  induction k with
  | zero =>
    rw [Nat.zero_min, List.replicate_zero, Move.row]
    exact congrArg (fun p : Option Nat ↦ (p.map (· + 1)).getD 0) h.position_eq
  | succ k ih =>
    have hshows := h.shows.after (List.replicate k .next)
    have hstep : start.after (List.replicate (k + 1) .next) =
        (start.after (List.replicate k .next)).next.2 := by
      rw [List.replicate_succ', after, List.foldl_append]
      rfl
    rw [hstep, Move.row_next hshows.rows.next_eq.2.1, ih]
    omega

/-- Past the last row nothing but a seek to a row changes the state. -/
theorem SameRows.apply_past (h : SameRows rs start) (hend : rs.position = some start.rowCount)
    {m : Move} (hm : ∀ row, m = .seek row → start.rowCount ≤ row) : (m.apply rs).2 = rs := by
  cases m with
  | seek row => rw [Move.apply, h.seek_of_le row (hm row rfl)]
  | next =>
    have hrow : start.rowCount ≤ Move.next.row rs := (Move.row_next hend).ge.trans' (Nat.le_succ _)
    rw [Move.apply, h.next_of_le hrow, ← hend]

theorem SameRows.after_past (h : SameRows rs start) (hend : rs.position = some start.rowCount)
    {moves : List Move} (hmoves : ∀ row, Move.seek row ∈ moves → start.rowCount ≤ row) :
    rs.after moves = rs := by
  induction moves with
  | nil => rfl
  | cons m moves ih =>
    have hstay : (m.apply rs).2 = rs := by
      refine h.apply_past hend ?_
      rintro row rfl
      exact hmoves row List.mem_cons_self
    rw [after, List.foldl_cons, hstay]
    exact ih fun row hmem ↦ hmoves row (List.mem_cons_of_mem m hmem)

end SameRows

/-- The cursor shows the row that it says it is on, whatever moves it came by: every accessor
answers as after a seek to that row alone.  A seek to a row goes there and a step after it to the
next one, while a seek past the rows fails and changes nothing.  Once a step finds no row there is
none until a seek goes to one.  Steps from the start visit all rows in order, each of them once. -/
theorem shows_row {start : ResultSet} (h : Whole start) (moves : List Move) :
    let rs := start.after moves
    (∀ p, rs.rowIndex = some p → (start.seek p).1 = .ok true ∧
        ∀ ref x, rs.read ref x = (start.seek p).2.read ref x) ∧
      (∀ p < start.rowCount, (rs.seek p).1 = .ok true ∧ (rs.seek p).2.rowIndex = some p ∧
        (rs.seek p).2.next.1 = .ok (decide (p + 1 < start.rowCount)) ∧
        (rs.seek p).2.next.2.rowIndex = if p + 1 < start.rowCount then some (p + 1) else none) ∧
      (∀ p ≥ start.rowCount, rs.seek p = (.error (.outOfRange p start.rowCount), rs)) ∧
      (rs.next.1 = .ok false → ∀ later, (∀ p, Move.seek p ∈ later → start.rowCount ≤ p) →
        let past := rs.next.2.after later
        past.rowIndex = none ∧ past.next.1 = .ok false ∧
          ∀ ref n c x, past.column ref = .ok (n, c) → x.Reads c →
            past.read ref x = .error .noRow) ∧
      ∀ k, let visited := start.after (List.replicate k .next)
        visited.next.1 = .ok (decide (k < start.rowCount)) ∧
          visited.next.2.rowIndex = if k < start.rowCount then some k else none := by
  intro rs
  have hshows : Shows start rs := h.shows.after moves
  have hrows := hshows.rows
  refine ⟨?_, ?_, hrows.seek_of_le, ?_, ?_⟩
  · intro p hp
    rw [hshows.row p hp]
    exact ⟨rfl, fun _ _ ↦ rfl⟩
  · intro p hp
    obtain ⟨shown, happly, -, hsame, hindex⟩ := hrows.apply_of_lt (m := .seek p) hp
    have hseek : rs.seek p = (.ok true, shown) := happly
    have hnext := hsame.next_eq
    rw [Move.row_next (Option.filter_eq_some_iff.1 hindex).1] at hnext
    rw [hseek]
    exact ⟨rfl, hindex, hnext.1, hnext.2.2⟩
  · intro hfalse later hlater past
    obtain ⟨hok, hposition, -⟩ := hrows.next_eq
    have hrow : start.rowCount ≤ Move.next.row rs := by
      rw [hfalse] at hok
      simpa using hok
    rw [Nat.min_eq_right hrow] at hposition
    have hnext := (hshows.apply .next).rows
    have hpast : past = rs.next.2 := hnext.after_past hposition hlater
    have hnone : past.rowIndex = none := by
      rw [hpast]
      exact rowIndex_past _ (hposition.trans (congrArg some hnext.rowCount_eq.symm))
    refine ⟨hnone, ?_, fun ref n c x hcolumn hx ↦ read_of_no_row hnone hcolumn hx⟩
    have hstay : start.rowCount ≤ Move.next.row past := by
      rw [hpast, Move.row_next hposition]
      exact Nat.le_succ _
    have hend : SameRows past start := hpast ▸ hnext
    rw [hend.next_of_le hstay]
  · intro k visited
    have hsteps := ((h.shows.after (List.replicate k .next)).rows).next_eq
    rw [h.row_after_steps k] at hsteps
    have hiff : min k (start.rowCount + 1) < start.rowCount ↔ k < start.rowCount := by omega
    refine ⟨hsteps.1.trans (by rw [decide_eq_decide.2 hiff]), hsteps.2.2.trans ?_⟩
    by_cases hk : k < start.rowCount
    · rw [if_pos hk, if_pos (hiff.2 hk), Nat.min_eq_left (by omega)]
    · rw [if_neg hk, if_neg (mt hiff.1 hk)]

/-- Columns of numbers, texts and times. -/
def numberTextTime : List Column :=
  [{ name := "n", fieldType := .long }, { name := "s", fieldType := .varString },
    { name := "t", fieldType := .time }]

/-- Two rows of them.  The second has no text. -/
def twoRows : List Bytes :=
  [[0, 0, 1, 0, 0, 0, 2, 97, 98, 8, 0, 0, 0, 0, 0, 1, 2, 3], [0, 8, 2, 0, 0, 0, 0]]

/-- The cursor comes back to the first row after the row without a text, the end of the rows and a
seek past them, and shows its text again.  At the end nothing is shown. -/
theorem shows_row_again :
    let start := ofBinary numberTextTime twoRows
    let rs := start.after [.next, .next, .next, .seek 7, .seek 0]
    Whole start ∧ rs.rowIndex = some 0 ∧
      rs.read (.index 1) .string = .ok (.text "ab") ∧
      (start.after [.next, .next]).read (.index 1) .isNull = .ok (.flag true) ∧
      (start.after [.next, .next, .next, .seek 7]).read (.index 1) .isNull = .error .noRow := by
  intro start rs
  have hwhole : Whole start := .binary (by decide +kernel)
  have hindex : rs.rowIndex = some 0 := by decide +kernel
  obtain ⟨hshown, -⟩ := shows_row hwhole [.next, .next, .next, .seek 7, .seek 0]
  obtain ⟨-, -, -, hpast, -⟩ := shows_row hwhole [.next, .next]
  refine ⟨hwhole, hindex, ?_, by decide +kernel, ?_⟩
  · exact ((hshown 0 hindex).2 (.index 1) .string).trans (by decide +kernel)
  · have hseek (p : Nat) (hp : Move.seek p ∈ [Move.seek 7]) : start.rowCount ≤ p := by
      cases List.mem_singleton.1 hp
      decide
    obtain ⟨-, -, hread⟩ := hpast (by decide +kernel) [.seek 7] hseek
    refine hread (.index 1) 1 { name := "s", fieldType := .varString } .isNull
      (by decide +kernel) ?_
    exact ⟨by decide, fun t ht ↦ by cases ht⟩

end ResultSet

end MariaClient
