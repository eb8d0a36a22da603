import MariaClient.Proofs.Temporal.Instant
import MariaClient.Proofs.Temporal.ServerText

/-!
# Dates and times as texts and back

A date and a time are read from their own texts.  What a text leaves out is read as zero: the
milliseconds of a text without a fraction, and the whole time of a text that is only a date.  A
text with milliseconds has the three digits that are kept of the fraction of a server.
-/

namespace MariaClient.Temporal

open Text Calendar

/-! ## The digits of milliseconds -/

/-- The digits of the fraction of a second in a text that shows the milliseconds or leaves them
out. -/
def millisDigits (millisecond : Nat) (shown : Bool) : List Char :=
  if shown then padded 3 millisecond else []

variable {millisecond : Nat} {shown : Bool}

theorem isDigit_millisDigits : ∀ c ∈ millisDigits millisecond shown, c.isDigit = true := by
  intro c hc
  cases shown with
  | true => exact isDigit_padded hc
  | false => cases hc

theorem value_millisDigits :
    value (millisDigits millisecond shown) = if shown then millisecond else 0 := by
  cases shown with
  | true => exact value_padded 3 millisecond
  | false => rfl

theorem value_millisDigits_lt (h : millisecond < 1000) :
    value (millisDigits millisecond shown) < 2 ^ 32 := by
  rw [value_millisDigits]
  split <;> omega

/-- The digits of the milliseconds stand behind a point. -/
theorem fractionText_millisDigits :
    Reader.fractionText (millisDigits millisecond shown) =
      if shown then '.' :: padded 3 millisecond else [] := by
  cases shown with
  | false => rfl
  | true =>
    have hlength := le_length_padded 3 millisecond
    rw [millisDigits, if_pos rfl, if_pos rfl]
    cases hdigits : padded 3 millisecond with
    | nil =>
      rw [hdigits] at hlength
      cases hlength
    | cons c cs => rfl

/-- Three digits of a fraction are all kept. -/
theorem keptDigits_millisDigits (h : millisecond < 1000) :
    keptDigits (millisDigits millisecond true) = millisDigits millisecond true := by
  have hlength : (padded 3 millisecond).length = 3 := length_padded (by decide) h
  rw [millisDigits, if_pos rfl]
  cases hdigits : padded 3 millisecond with
  | nil => rfl
  | cons c cs =>
    rw [hdigits] at hlength
    rw [keptDigits, hlength, List.take_of_length_le hlength.le, Nat.sub_self, List.replicate_zero,
      List.append_nil]
    exact List.cons_ne_nil c cs

/-! ## Times of day -/

namespace TimeOfDay

variable {t : TimeOfDay}

theorem text_eq (t : TimeOfDay) (shown : Bool) :
    t.text shown = String.ofList (Reader.clockText t.hour t.minute t.second ++
      Reader.fractionText (millisDigits t.millisecond shown)) := by
  rw [text, fractionText_millisDigits, Reader.clockText]
  simp only [List.append_assoc, List.cons_append]

/-- The time that is left of a text which may leave out the milliseconds. -/
def told (t : TimeOfDay) (shown : Bool) : TimeOfDay :=
  { t with millisecond := if shown then t.millisecond else 0 }

theorem Valid.told (h : t.Valid) (shown : Bool) : (t.told shown).Valid := by
  obtain ⟨hhour, hminute, hsecond, hmillisecond⟩ := valid_iff.1 h
  refine valid_iff.2 ⟨hhour, hminute, hsecond, ?_⟩
  cases shown with
  | true => exact hmillisecond
  | false => exact Nat.zero_lt_succ 999

/-- A time is read from its text. -/
theorem Valid.reads_text (h : t.Valid) (shown : Bool) :
    parse (t.text shown) = .ok (t.told shown) := by
  obtain ⟨hhour, hminute, hsecond, hmillisecond⟩ := valid_iff.1 h
  rw [text_eq, parse_eq (Reader.time_printed (by omega) (by omega) (by omega)
    isDigit_millisDigits (value_millisDigits_lt hmillisecond))]
  rw [value_millisDigits]
  exact if_pos (h.told shown)

/-- Of a text with milliseconds the fraction is kept. -/
theorem Valid.serverFraction_text (h : t.Valid) :
    ResultSet.serverFraction (t.text true) = t.text true := by
  have hcut := ServerValue.serverFraction_shown List.not_mem_nil t.hour t.minute t.second
    (@isDigit_millisDigits t.millisecond true)
  rw [keptDigits_millisDigits (valid_iff.1 h).2.2.2] at hcut
  rw [text_eq]
  exact hcut

end TimeOfDay

/-! ## Dates with a time of day -/

namespace DateTime

variable {d : DateTime}

theorem dateText_eq (d : DateTime) :
    d.dateText = String.ofList (Reader.dateText d.year d.month d.day) := by
  rw [dateText, Reader.dateText]
  simp only [List.append_assoc, List.cons_append]

theorem text_eq (d : DateTime) (shown : Bool) :
    d.text shown = String.ofList (Reader.dateText d.year d.month d.day ++
      ' ' :: (Reader.clockText d.time.hour d.time.minute d.time.second ++
        Reader.fractionText (millisDigits d.time.millisecond shown))) := by
  rw [text, dateText_eq, TimeOfDay.text_eq, List.append_cons]
  simp only [String.ofList_append]

/-- The numbers of a date are no larger than those that a text can hold. -/
theorem Valid.small (h : d.Valid) : d.year < 2 ^ 32 ∧ d.month < 2 ^ 32 ∧ d.day < 2 ^ 32 := by
  obtain ⟨-, hyear, -, hmonth, -, hday, -⟩ := validDate_spec h.date
  have hmonthDays := daysInMonth_le d.year d.month
  rw [maxYear] at hyear
  omega

/-- A date with a time is read from its text. -/
theorem Valid.reads_text (h : d.Valid) (shown : Bool) :
    parse (d.text shown) = .ok { d with time := d.time.told shown } := by
  obtain ⟨hyear, hmonth, hday⟩ := h.small
  obtain ⟨hhour, hminute, hsecond, hmillisecond⟩ := TimeOfDay.valid_iff.1 h.time
  rw [text_eq, parse_eq (Reader.dateTime_printed hyear hmonth hday (by omega) (by omega) (by omega)
    isDigit_millisDigits (value_millisDigits_lt hmillisecond))]
  dsimp only
  rw [value_millisDigits]
  exact if_pos (Bool.and_eq_true_iff.2 ⟨h.date, h.time.told shown⟩)

/-- A date is read from its text at midnight. -/
theorem Valid.parse_dateText (h : d.Valid) : parse d.dateText = .ok d.date := by
  obtain ⟨hyear, hmonth, hday⟩ := h.small
  rw [dateText_eq, parse_eq (Reader.dateTime_printed_date hyear hmonth hday)]
  exact if_pos (Bool.and_eq_true_iff.2 ⟨h.date, rfl⟩)

/-- Of a text with milliseconds the fraction is kept. -/
theorem Valid.serverFraction_text (h : d.Valid) :
    ResultSet.serverFraction (d.text true) = d.text true := by
  have hpoint : '.' ∉ Reader.dateText d.year d.month d.day ++ [' '] :=
    List.not_mem_append (point_not_mem_dateText d.year d.month d.day) (by simp)
  have hcut := ServerValue.serverFraction_shown hpoint d.time.hour d.time.minute d.time.second
    (@isDigit_millisDigits d.time.millisecond true)
  rw [keptDigits_millisDigits (TimeOfDay.valid_iff.1 h.time).2.2.2] at hcut
  rw [text_eq, List.append_cons]
  exact hcut

end DateTime

/-! ## Both -/

/-- Every date with a time and every time of day is read from its texts, but for what they leave
out.  The years may have five digits and the seconds may be leap seconds.  A text that shows the
milliseconds is not changed by the reading of fractions. -/
theorem texts_read_back :
    (∀ d : DateTime, d.Valid →
      DateTime.parse (d.text true) = .ok d ∧
        DateTime.parse (d.text false) = .ok { d with time := { d.time with millisecond := 0 } } ∧
        DateTime.parse d.dateText = .ok d.date ∧
        ResultSet.serverFraction (d.text true) = d.text true) ∧
      ∀ t : TimeOfDay, t.Valid →
        TimeOfDay.parse (t.text true) = .ok t ∧
          TimeOfDay.parse (t.text false) = .ok { t with millisecond := 0 } ∧
          ResultSet.serverFraction (t.text true) = t.text true := by
  constructor
  · intro d hd
    exact ⟨hd.reads_text true, hd.reads_text false, hd.parse_dateText, hd.serverFraction_text⟩
  · intro t ht
    exact ⟨ht.reads_text true, ht.reads_text false, ht.serverFraction_text⟩

/-- The last leap second of the year 12345 and its texts. -/
theorem texts_read_back_leapSecond :
    let t : TimeOfDay := { hour := 23, minute := 59, second := 61, millisecond := 7 }
    let d : DateTime := { year := 12345, month := 12, day := 31, time := t }
    d.Valid ∧ d.text true = "12345-12-31 23:59:61.007" ∧
      DateTime.parse "12345-12-31 23:59:61.007" = .ok d ∧
      TimeOfDay.parse "23:59:61" = .ok { t with millisecond := 0 } := by
  intro t d
  have hd : d.Valid := ⟨rfl, rfl⟩
  have htext : d.text true = "12345-12-31 23:59:61.007" := by decide +kernel
  have htime : t.text false = "23:59:61" := by decide +kernel
  refine ⟨hd, htext, ?_, ?_⟩
  · rw [← htext]
    exact (texts_read_back.1 d hd).1
  · rw [← htime]
    exact (texts_read_back.2 t hd.time).2.1

end MariaClient.Temporal
