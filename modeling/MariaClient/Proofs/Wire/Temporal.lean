import MariaClient.Proofs.Calendar.DayNumber
import MariaClient.Proofs.Wire.Reads
import MariaClient.Wire.Execute
import MariaClient.Wire.Row

/-!
# Dates and times on the wire

A temporal value may leave out the fields at its end that are zero, so that the number of its bytes
tells which fields there are.  `TimeEncoding` and `DateEncoding` are the encodings of a value, and
the reader of a row takes each of them for that value.  The writer of a command writes one of them,
so that its value is read back whichever of its fields are zero.
-/

namespace MariaClient.Wire

open Temporal Calendar

/-- A temporal value is a run of bytes after their number. -/
theorem reads_temporal {fieldType : FieldType} {count : UInt8} {data : Bytes} {t : WireTime}
    (hlen : data.length = count.toNat)
    (h : Reads (if fieldType = .time then timeFields count.toNat
      else dateFields fieldType count.toNat) data t) :
    Reads (temporalReader fieldType) (count :: data) t := by
  have hrun := h.run []
  rw [List.append_nil] at hrun
  refine (reads_byte count).bind ?_
  intro rest
  rw [Attempt.bind_apply_ok (reads_bytes hlen rest), hrun]
  rfl

variable {year month day hour minute second microsecond : Nat}

/-- The fraction of a second in a value of `n` bytes, which has none if it is shorter than
`least`. -/
def fractionBytes (least n microsecond : Nat) : Bytes :=
  if least ≤ n then toLE 4 microsecond else []

/-- A fraction that is left out is read as zero. -/
theorem reads_fraction (t : WireTime) {least n : Nat} (hn : n < least → microsecond = 0)
    (hu : microsecond < 2 ^ 32) (ht : t.microsecond = 0) :
    Reads (if least ≤ n then do return { t with microsecond := ← Reader.le 4 } else pure t)
      (fractionBytes least n microsecond) { t with microsecond } := by
  unfold fractionBytes
  by_cases h : least ≤ n
  · rw [if_pos h, if_pos h]
    exact (reads_le (show microsecond < 256 ^ 4 from hu)).map fun microsecond ↦
      { t with microsecond }
  · rw [if_neg h, if_neg h, hn (Nat.lt_of_not_le h), ← ht]
    exact .pure t

/-! ## Lengths of time -/

/-- The sign, the days and the clock of a length of time.  The clock may run past a day. -/
def clockFields (sign : UInt8) (days : Nat) (hour minute second : UInt8) : Bytes :=
  sign :: toLE 4 days ++ [hour, minute, second]

/-- A length of time is read if all its hours fit. -/
theorem reads_clockFields (sign : UInt8) {days n : Nat} {hour minute second : UInt8} (hn : 8 ≤ n)
    (hfraction : n < 12 → microsecond = 0) (hdays : days < 2 ^ 32)
    (hhours : days * 24 + hour.toNat < 2 ^ 32) (hu : microsecond < 2 ^ 32) :
    Reads (timeFields n)
      (clockFields sign days hour minute second ++ fractionBytes 12 n microsecond)
      { hour := days * 24 + hour.toNat
        minute := minute.toNat
        second := second.toNat
        microsecond
        negative := sign != 0
        kind := .time } := by
  have hbytes : clockFields sign days hour minute second ++ fractionBytes 12 n microsecond =
      [sign] ++ (toLE 4 days ++ ([hour] ++
        ([minute] ++ ([second] ++ fractionBytes 12 n microsecond)))) := by
    simp only [clockFields, List.cons_append, List.append_assoc, List.nil_append]
  unfold timeFields
  dsimp only
  rw [if_pos hn, hbytes]
  refine (reads_byte _).bind ((reads_le hdays).bind ((reads_byte _).bind ?_))
  rw [if_neg (Nat.not_le.2 hhours)]
  refine (reads_byte _).bind ((reads_byte _).bind (.pure_bind ?_))
  exact reads_fraction _ hfraction hu rfl

/-- The sign, the days and the clock of a length of time of so many hours. -/
def clockBytes (negative : Bool) (hour minute second : Nat) : Bytes :=
  (if negative then 1 else 0) :: toLE 4 (hour / 24) ++
    [UInt8.ofNat (hour % 24), UInt8.ofNat minute, UInt8.ofNat second]

theorem reads_timeFields (negative : Bool) {n : Nat} (hn : 8 ≤ n)
    (hfraction : n < 12 → microsecond = 0) (hh : hour < 2 ^ 32) (hm : minute < 256)
    (hs : second < 256) (hu : microsecond < 2 ^ 32) :
    Reads (timeFields n)
      (clockBytes negative hour minute second ++ fractionBytes 12 n microsecond)
      { hour, minute, second, microsecond, negative, kind := .time } := by
  have hsign : ((if negative then 1 else 0 : UInt8) != 0) = negative := by
    cases negative <;> rfl
  have hhour : (UInt8.ofNat (hour % 24)).toNat = hour % 24 :=
    UInt8.toNat_ofNat_of_lt' (by change _ < 256; omega)
  have hdays : hour / 24 * 24 + hour % 24 = hour := Nat.div_add_mod' hour 24
  have hr : Reads (timeFields n) (clockFields (if negative then 1 else 0) (hour / 24)
      (.ofNat (hour % 24)) (.ofNat minute) (.ofNat second) ++ fractionBytes 12 n microsecond) _ :=
    reads_clockFields _ hn hfraction (by omega) (by rwa [hhour, hdays]) hu
  rwa [hhour, hdays, hsign, UInt8.toNat_ofNat_of_lt' hm, UInt8.toNat_ofNat_of_lt' hs] at hr

/-- The encodings of a length of time, each after the number of its bytes. -/
inductive TimeEncoding : Bool → (hour minute second microsecond : Nat) → Bytes → Prop
  | nothing : TimeEncoding false 0 0 0 0 [0]
  | seconds {negative : Bool} {hour minute second : Nat} :
    TimeEncoding negative hour minute second 0 (8 :: clockBytes negative hour minute second)
  | microseconds {negative : Bool} {hour minute second microsecond : Nat} :
    TimeEncoding negative hour minute second microsecond
      (12 :: (clockBytes negative hour minute second ++ toLE 4 microsecond))

/-- Each encoding of a length of time of less than 2 ^ 32 hours is read as that. -/
theorem TimeEncoding.reads {negative : Bool} {data : Bytes}
    (h : TimeEncoding negative hour minute second microsecond data)
    (hh : hour < 2 ^ 32) (hm : minute < 256) (hs : second < 256) (hu : microsecond < 2 ^ 32) :
    Reads (temporalReader .time) data
      { hour, minute, second, microsecond, negative, kind := .time } := by
  cases h with
  | nothing => exact reads_temporal rfl (.pure ({ kind := .time } : WireTime))
  | seconds =>
    have hr := reads_timeFields negative (Nat.le_refl 8) (fun _ ↦ rfl) hh hm hs hu
    rw [fractionBytes, if_neg (by decide), List.append_nil] at hr
    exact reads_temporal (by simp [clockBytes]) hr
  | microseconds =>
    have hr := reads_timeFields (n := 12) negative (by decide) (absurd · (Nat.lt_irrefl 12))
      hh hm hs hu
    exact reads_temporal (by simp [clockBytes]) hr

theorem timeEncoding_encodeTime :
    TimeEncoding false hour minute second microsecond
      (encodeTime { hour, minute, second, microsecond, kind := .time }) := by
  unfold encodeTime
  split
  · next hzero =>
    simp only [WireTime.isZero, Bool.and_eq_true, beq_iff_eq] at hzero
    obtain ⟨⟨⟨⟨-, rfl⟩, rfl⟩, rfl⟩, rfl⟩ := hzero
    exact .nothing
  · by_cases h : microsecond = 0
    · subst h
      exact .seconds
    · rw [if_neg h]
      exact .microseconds

/-- A length of time of less than 2 ^ 32 hours is read back. -/
theorem reads_encodeTime (hh : hour < 2 ^ 32) (hm : minute < 256) (hs : second < 256)
    (hu : microsecond < 2 ^ 32) :
    Reads (temporalReader .time)
      (encodeTime { hour, minute, second, microsecond, kind := .time })
      { hour, minute, second, microsecond, kind := .time } :=
  timeEncoding_encodeTime.reads hh hm hs hu

/-! ## Dates -/

/-- The fields of a date that exists fit their bytes. -/
theorem validDate_lt (h : validDate year month day = true) :
    year < 2 ^ 16 ∧ month < 256 ∧ day < 256 := by
  obtain ⟨-, hyear, -, hmonth, -, hday, -⟩ := validDate_spec h
  have hlast : year ≤ 65535 := hyear
  have hle := Nat.le_trans hday (daysInMonth_le year month)
  omega

/-- The numbers of a date. -/
def dateBytes (year month day : Nat) : Bytes :=
  toLE 2 year ++ [UInt8.ofNat month, UInt8.ofNat day]

/-- The numbers of a time of day. -/
def timeOfDayBytes (hour minute second : Nat) : Bytes :=
  [UInt8.ofNat hour, UInt8.ofNat minute, UInt8.ofNat second]

/-- The kind of value that a type of dates has. -/
def dateKind (fieldType : FieldType) : WireKind :=
  if fieldType = .date ∨ fieldType = .newDate then .date else .dateTime

theorem reads_dateFields (fieldType : FieldType) {n : Nat} (hn : 4 ≤ n)
    (hclock : n < 7 → hour = 0 ∧ minute = 0 ∧ second = 0)
    (hfraction : n < 11 → microsecond = 0) (hy : year < 2 ^ 16) (hmo : month < 256)
    (hd : day < 256) (hh : hour < 256) (hm : minute < 256) (hs : second < 256)
    (hu : microsecond < 2 ^ 32) :
    Reads (dateFields fieldType n)
      (dateBytes year month day ++
        ((if 7 ≤ n then timeOfDayBytes hour minute second else []) ++
          fractionBytes 11 n microsecond))
      { year, month, day, hour, minute, second, microsecond, kind := dateKind fieldType } := by
  have hdate (data : Bytes) : dateBytes year month day ++ data =
      toLE 2 year ++ ([UInt8.ofNat month] ++ ([UInt8.ofNat day] ++ data)) := by
    simp only [dateBytes, List.append_assoc, List.cons_append, List.nil_append]
  unfold dateFields
  dsimp only
  rw [if_pos hn, hdate]
  refine (reads_le (show year < 256 ^ 2 from hy)).bind ((reads_byte _).bind
    ((reads_byte _).bind (.pure_bind ?_)))
  rw [UInt8.toNat_ofNat_of_lt' hmo, UInt8.toNat_ofNat_of_lt' hd]
  by_cases h7 : 7 ≤ n
  · rw [if_pos h7, if_pos h7]
    refine (reads_byte _).bind ((reads_byte _).bind ((reads_byte _).bind (.pure_bind ?_)))
    rw [UInt8.toNat_ofNat_of_lt' hh, UInt8.toNat_ofNat_of_lt' hm, UInt8.toNat_ofNat_of_lt' hs]
    exact reads_fraction _ hfraction hu rfl
  · rw [if_neg h7, if_neg h7]
    obtain ⟨rfl, rfl, rfl⟩ := hclock (Nat.lt_of_not_le h7)
    exact .pure_bind (reads_fraction _ hfraction hu rfl)

/-- The encodings of a date with a time, each after the number of its bytes. -/
inductive DateEncoding : (year month day hour minute second microsecond : Nat) → Bytes → Prop
  | nothing : DateEncoding 0 0 0 0 0 0 0 [0]
  | date {year month day : Nat} :
    DateEncoding year month day 0 0 0 0 (4 :: dateBytes year month day)
  | seconds {year month day hour minute second : Nat} :
    DateEncoding year month day hour minute second 0
      (7 :: (dateBytes year month day ++ timeOfDayBytes hour minute second))
  | microseconds {year month day hour minute second microsecond : Nat} :
    DateEncoding year month day hour minute second microsecond
      (11 :: (dateBytes year month day ++
        (timeOfDayBytes hour minute second ++ toLE 4 microsecond)))

/-- Each encoding of a date with a time is read as that, in a column of any type of dates. -/
theorem DateEncoding.reads {fieldType : FieldType} (htype : fieldType ≠ .time) {data : Bytes}
    (h : DateEncoding year month day hour minute second microsecond data)
    (hy : year < 2 ^ 16) (hmo : month < 256) (hd : day < 256) (hh : hour < 256) (hm : minute < 256)
    (hs : second < 256) (hu : microsecond < 2 ^ 32) :
    Reads (temporalReader fieldType) data
      { year, month, day, hour, minute, second, microsecond, kind := dateKind fieldType } := by
  have hrun {count : UInt8} {data : Bytes} {t : WireTime} (hlength : data.length = count.toNat)
      (hr : Reads (dateFields fieldType count.toNat) data t) :
      Reads (temporalReader fieldType) (count :: data) t :=
    reads_temporal hlength (by rwa [if_neg htype])
  cases h with
  | nothing => exact hrun rfl (.pure ({ kind := dateKind fieldType } : WireTime))
  | date =>
    have hr := reads_dateFields fieldType (n := 4) (by decide) (fun _ ↦ ⟨rfl, rfl, rfl⟩)
      (fun _ ↦ rfl) hy hmo hd hh hm hs hu
    rw [fractionBytes, if_neg (by decide), if_neg (by decide), List.append_nil,
      List.append_nil] at hr
    exact hrun (by simp [dateBytes]) hr
  | seconds =>
    have hr := reads_dateFields fieldType (n := 7) (by decide) (absurd · (Nat.lt_irrefl 7))
      (fun _ ↦ rfl) hy hmo hd hh hm hs hu
    rw [fractionBytes, if_pos (by decide), if_neg (by decide), List.append_nil] at hr
    exact hrun (by simp [dateBytes, timeOfDayBytes]) hr
  | microseconds =>
    have hr := reads_dateFields fieldType (n := 11) (by decide) (fun h ↦ absurd h (by decide))
      (absurd · (Nat.lt_irrefl 11)) hy hmo hd hh hm hs hu
    rw [fractionBytes, if_pos (by decide), if_pos (by decide)] at hr
    exact hrun (by simp [dateBytes, timeOfDayBytes]) hr

theorem dateEncoding_encodeDate_dateTime :
    DateEncoding year month day hour minute second microsecond (encodeDate .dateTime
      { year, month, day, hour, minute, second, microsecond, kind := .dateTime }) := by
  unfold encodeDate
  dsimp only
  split
  · next hzero =>
    simp only [WireTime.isZero, Bool.and_eq_true, beq_iff_eq] at hzero
    obtain ⟨⟨⟨⟨⟨⟨rfl, rfl⟩, rfl⟩, rfl⟩, rfl⟩, rfl⟩, rfl⟩ := hzero
    exact .nothing
  split
  · rw [List.cons_append, List.cons_append, List.append_assoc]
    exact .microseconds
  · next h =>
    obtain rfl : microsecond = 0 := by simpa using h
    split
    · exact .seconds
    · next h =>
      obtain ⟨⟨rfl, rfl⟩, rfl⟩ : (hour = 0 ∧ minute = 0) ∧ second = 0 := by simpa using h
      exact .date

/-- A date with a time is read back. -/
theorem reads_encodeDate_dateTime (hy : year < 2 ^ 16) (hmo : month < 256) (hd : day < 256)
    (hh : hour < 256) (hm : minute < 256) (hs : second < 256) (hu : microsecond < 2 ^ 32) :
    Reads (temporalReader .dateTime)
      (encodeDate .dateTime
        { year, month, day, hour, minute, second, microsecond, kind := .dateTime })
      { year, month, day, hour, minute, second, microsecond, kind := .dateTime } :=
  dateEncoding_encodeDate_dateTime.reads (show FieldType.dateTime ≠ .time from nofun)
    hy hmo hd hh hm hs hu

theorem dateEncoding_encodeDate_date :
    DateEncoding year month day 0 0 0 0 (encodeDate .date { year, month, day, kind := .date }) := by
  unfold encodeDate
  dsimp only
  split
  · next hzero =>
    simp only [WireTime.isZero, Bool.and_eq_true, beq_iff_eq] at hzero
    obtain ⟨⟨⟨⟨⟨⟨rfl, rfl⟩, rfl⟩, -⟩, -⟩, -⟩, -⟩ := hzero
    exact .nothing
  · exact .date

/-- A date is read back. -/
theorem reads_encodeDate_date (hy : year < 2 ^ 16) (hmo : month < 256) (hd : day < 256) :
    Reads (temporalReader .date) (encodeDate .date { year, month, day, kind := .date })
      { year, month, day, kind := .date } :=
  have hzero : 0 < 256 := Nat.succ_pos 255
  dateEncoding_encodeDate_date.reads (show FieldType.date ≠ .time from nofun)
    hy hmo hd hzero hzero hzero (Nat.two_pow_pos 32)

end MariaClient.Wire
