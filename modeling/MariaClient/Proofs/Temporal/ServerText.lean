import MariaClient.Proofs.Temporal.Printed
import MariaClient.ResultSet

/-!
# Temporal values of servers

The dates and times that a server can hold, and the texts in which it shows them.  A fraction is
shown with as many digits as the column has, so that the same value has several texts.  All of them
are read alike (`ServerValue.Shows.parse_dateTime`, `ServerValue.Shows.parse_time`), namely as the
value that a packet carries.
-/

namespace MariaClient.Temporal

open Text

/-! ## Values -/

/-- A date of a server.  Any part of it may be zero, and a month may have 31 days. -/
structure ServerDate where
  year : Nat
  month : Nat
  day : Nat
  year_le : year ≤ 9999 := by decide
  month_le : month ≤ 12 := by decide
  day_le : day ≤ 31 := by decide
  deriving DecidableEq, Repr

/-- Hours, minutes and seconds of a server.  A length of time may have more than a day of hours. -/
structure ServerClock where
  hour : Nat
  minute : Nat
  second : Nat
  microsecond : Nat
  hour_le : hour ≤ 838 := by decide
  minute_le : minute ≤ 59 := by decide
  second_le : second ≤ 59 := by decide
  microsecond_lt : microsecond < 10 ^ 6 := by decide
  deriving DecidableEq, Repr

/-- The numbers of a date fit their bytes. -/
theorem ServerDate.fits (d : ServerDate) : d.year < 2 ^ 16 ∧ d.month < 256 ∧ d.day < 256 := by
  have hyear := d.year_le
  have hmonth := d.month_le
  have hday := d.day_le
  omega

/-- The numbers of a clock fit their bytes, in which the hours are cut into days. -/
theorem ServerClock.fits (c : ServerClock) :
    c.hour < 2 ^ 32 ∧ c.minute < 256 ∧ c.second < 256 ∧ c.microsecond < 2 ^ 32 := by
  have hhour := c.hour_le
  have hminute := c.minute_le
  have hsecond := c.second_le
  have hmicrosecond := c.microsecond_lt
  omega

/-- The numbers of a date are no larger than those that a text can hold. -/
theorem ServerDate.small (d : ServerDate) :
    d.year < 2 ^ 32 ∧ d.month < 2 ^ 32 ∧ d.day < 2 ^ 32 := by
  have hfits := d.fits
  omega

theorem ServerClock.small (c : ServerClock) :
    c.hour < 2 ^ 32 ∧ c.minute < 2 ^ 32 ∧ c.second < 2 ^ 32 := by
  have hfits := c.fits
  omega

/-- The date with a time of day. -/
def ServerDate.withTime (d : ServerDate) (time : TimeOfDay) : DateTime :=
  { year := d.year, month := d.month, day := d.day, time }

/-- The clock to the millisecond, as that of a day. -/
def ServerClock.timeOfDay (c : ServerClock) : TimeOfDay :=
  { hour := c.hour, minute := c.minute, second := c.second, millisecond := c.microsecond / 1000 }

/-- A clock is that of a day if its hours are. -/
theorem ServerClock.valid (c : ServerClock) :
    TimeOfDay.valid c.hour c.minute c.second (c.microsecond / 1000) = decide (c.hour < 24) := by
  have hminute : c.minute < 60 := Nat.lt_succ_of_le c.minute_le
  have hsecond : c.second < 62 := by
    have hle := c.second_le
    omega
  have hmillisecond : c.microsecond / 1000 < 1000 := by
    have hlt := c.microsecond_lt
    omega
  simp only [TimeOfDay.valid, hminute, hsecond, hmillisecond, decide_true, Bool.and_true]

/-- No time at all. -/
def ServerClock.IsZero (c : ServerClock) : Prop :=
  c.hour = 0 ∧ c.minute = 0 ∧ c.second = 0 ∧ c.microsecond = 0

/-- A temporal value of a server.  Only a length of time that is not zero has a sign. -/
inductive ServerValue
  | date (d : ServerDate)
  | dateTime (d : ServerDate) (c : ServerClock) (hour_lt : c.hour < 24)
  | time (negative : Bool) (c : ServerClock) (signed : negative = true → ¬ c.IsZero)

namespace ServerValue

/-- The value as packets carry it. -/
def wire : ServerValue → WireTime
  | date d => { year := d.year, month := d.month, day := d.day, kind := .date }
  | dateTime d c _ =>
    { year := d.year, month := d.month, day := d.day, hour := c.hour, minute := c.minute,
      second := c.second, microsecond := c.microsecond, kind := .dateTime }
  | time negative c _ =>
    { hour := c.hour, minute := c.minute, second := c.second, microsecond := c.microsecond,
      negative, kind := .time }

/-- The types of the columns that hold the value. -/
def fieldTypes : ServerValue → List FieldType
  | date _ => [.date, .newDate]
  | dateTime .. => [.dateTime, .timestamp]
  | time .. => [.time]

end ServerValue

/-! ## Fractions -/

variable {ds : List Char} {microsecond : Nat}

/-- The digits show a number of microseconds, of whose six digits the last may be left out where
they are zeros. -/
def ShowsFraction (microsecond : Nat) (ds : List Char) : Prop :=
  ∃ k, padded 6 microsecond = ds ++ List.replicate k '0'

theorem ShowsFraction.isDigit (h : ShowsFraction microsecond ds) :
    ∀ c ∈ ds, c.isDigit = true := by
  obtain ⟨k, hdigits⟩ := h
  intro c hc
  have hmem : c ∈ padded 6 microsecond := by
    rw [hdigits]
    exact List.mem_append_left _ hc
  exact isDigit_padded hmem

/-- The digits of a fraction that are kept, so that they count milliseconds. -/
def keptDigits : List Char → List Char
  | [] => []
  | ds => ds.take 3 ++ List.replicate (3 - ds.length) '0'

theorem isDigit_keptDigits (hds : ∀ c ∈ ds, c.isDigit = true) :
    ∀ c ∈ keptDigits ds, c.isDigit = true := by
  cases ds with
  | nil => exact hds
  | cons d ds =>
    intro c hc
    rcases List.mem_append.1 hc with htake | hzero
    · exact hds c (List.mem_of_mem_take htake)
    · rw [(List.mem_replicate.1 hzero).2]
      rfl

/-- Whichever digits are shown, the milliseconds are kept. -/
theorem ShowsFraction.value_keptDigits (h : ShowsFraction microsecond ds)
    (hlt : microsecond < 10 ^ 6) : value (keptDigits ds) = microsecond / 1000 := by
  obtain ⟨k, hdigits⟩ := h
  have hlength : (padded 6 microsecond).length = 6 := length_padded (by decide) hlt
  cases ds with
  | nil =>
    have hzero : microsecond = 0 := by
      rw [← value_padded 6 microsecond, hdigits]
      exact value_replicate_zero k
    rw [hzero]
    rfl
  | cons d ds =>
    rw [hdigits, List.length_append, List.length_replicate] at hlength
    have hkept : keptDigits (d :: ds) = (padded 6 microsecond).take 3 := by
      rw [hdigits, List.take_append, List.take_replicate, keptDigits, Nat.min_eq_left (by omega)]
      exact List.cons_ne_nil d ds
    have hrest : ((padded 6 microsecond).drop 3).length = 3 := by
      rw [List.length_drop, length_padded (by decide) hlt]
    rw [hkept, value_take (fun c ↦ isDigit_padded), value_padded, hrest]

theorem ShowsFraction.value_small (h : ShowsFraction microsecond ds)
    (hlt : microsecond < 10 ^ 6) : value (keptDigits ds) < 2 ^ 32 := by
  rw [h.value_keptDigits hlt]
  omega

/-! ## Cutting the fraction -/

/-- A text without a point is read as it is. -/
theorem serverFraction_of_not_mem {s : List Char} (h : '.' ∉ s) :
    ResultSet.serverFraction (String.ofList s) = String.ofList s := by
  rw [ResultSet.serverFraction, String.toList_ofList, splitLast_of_not_mem h]

/-! ## Readers -/

theorem DateTime.parse_eq {s : String} {f : Reader.DateFields} (h : Reader.dateTime s = .ok f) :
    parse s =
      of f.year f.month f.day f.time.hour f.time.minute f.time.second f.time.millisecond := by
  rw [parse, h]
  rfl

theorem TimeOfDay.parse_eq {s : String} {f : Reader.TimeFields} (h : Reader.time s = .ok f) :
    parse s = of f.hour f.minute f.second f.millisecond := by
  rw [parse, h]
  rfl

theorem TimeOfDay.parse_error {s : String} {e : Error} (h : Reader.time s = .error e) :
    parse s = .error e := by
  rw [parse, h]
  rfl

theorem DateTime.ofWire_eq {t : WireTime} (h : t.kind ≠ .time) :
    ofWire t = of t.year t.month t.day t.hour t.minute t.second t.millisecond := by
  unfold ofWire
  split
  · next htime => exact absurd htime h
  · rfl

theorem DateTime.toOption_of (year month day hour minute second millisecond : Nat) :
    (of year month day hour minute second millisecond).toOption =
      if Calendar.validDate year month day && TimeOfDay.valid hour minute second millisecond then
        some { year, month, day, time := { hour, minute, second, millisecond } }
      else none := by
  unfold of
  split
  · rfl
  · rfl

theorem TimeOfDay.toOption_of (hour minute second millisecond : Nat) :
    (of hour minute second millisecond).toOption =
      if valid hour minute second millisecond then some { hour, minute, second, millisecond }
      else none := by
  unfold of
  split
  · rfl
  · rfl

/-! ## Texts -/

theorem point_not_mem_padded (width n : Nat) : '.' ∉ padded width n := by
  intro h
  cases isDigit_padded h

theorem colon_mem_clockText (hour minute second : Nat) :
    ':' ∈ Reader.clockText hour minute second :=
  List.mem_append_right _ List.mem_cons_self

theorem point_not_mem_clockText (hour minute second : Nat) :
    '.' ∉ Reader.clockText hour minute second := by
  simp [Reader.clockText, point_not_mem_padded]

theorem point_not_mem_dateText (year month day : Nat) :
    '.' ∉ Reader.dateText year month day := by
  simp [Reader.dateText, point_not_mem_padded]

namespace ServerValue

/-- The texts in which a server shows a value. -/
inductive Shows : ServerValue → List Char → Prop
  | date (d : ServerDate) : Shows (date d) (Reader.dateText d.year d.month d.day)
  | dateTime (d : ServerDate) (c : ServerClock) (hour_lt : c.hour < 24) {ds : List Char}
    (hds : ShowsFraction c.microsecond ds) :
    Shows (dateTime d c hour_lt)
      (Reader.dateText d.year d.month d.day ++
        ' ' :: (Reader.clockText c.hour c.minute c.second ++ Reader.fractionText ds))
  | time (negative : Bool) (c : ServerClock) (signed : negative = true → ¬ c.IsZero)
    {ds : List Char} (hds : ShowsFraction c.microsecond ds) :
    Shows (time negative c signed)
      ((if negative then ['-'] else []) ++
        (Reader.clockText c.hour c.minute c.second ++ Reader.fractionText ds))

/-- Of the fraction behind a clock three digits are kept. -/
theorem serverFraction_shown {head : List Char} (hpoint : '.' ∉ head) (hour minute second : Nat)
    (hds : ∀ c ∈ ds, c.isDigit = true) :
    ResultSet.serverFraction (String.ofList
        (head ++ (Reader.clockText hour minute second ++ Reader.fractionText ds))) =
      String.ofList
        (head ++ (Reader.clockText hour minute second ++ Reader.fractionText (keptDigits ds))) := by
  rw [← List.append_assoc, ← List.append_assoc]
  have hcolon : ':' ∈ head ++ Reader.clockText hour minute second :=
    List.mem_append_right head (colon_mem_clockText hour minute second)
  have hpoint : '.' ∉ head ++ Reader.clockText hour minute second :=
    List.not_mem_append hpoint (point_not_mem_clockText hour minute second)
  generalize head ++ Reader.clockText hour minute second = head at hcolon hpoint ⊢
  cases ds with
  | nil =>
    rw [Reader.fractionText, List.append_nil, serverFraction_of_not_mem hpoint, keptDigits,
      Reader.fractionText, List.append_nil]
  | cons d ds =>
    have hsplit : splitLast '.' (head ++ '.' :: (d :: ds)) = some (head, d :: ds) := by
      refine splitLast_append ?_ head
      intro hmem
      cases hds '.' hmem
    have hcut : head.contains ':' = true ∧ d :: ds ≠ [] ∧ (d :: ds).all Char.isDigit = true :=
      ⟨List.contains_iff_mem.2 hcolon, List.cons_ne_nil d ds, List.all_eq_true.2 hds⟩
    have htext : Reader.fractionText (d :: ds) = '.' :: (d :: ds) := rfl
    rw [ResultSet.serverFraction, String.toList_ofList, htext, hsplit]
    dsimp only
    rw [if_pos hcut, List.append_assoc]
    rfl

variable {v : ServerValue} {text : List Char}

/-- A date is read from its texts as from a packet. -/
theorem Shows.parse_dateTime (h : v.Shows text) (hkind : v.wire.kind ≠ .time) :
    DateTime.parse (ResultSet.serverFraction (String.ofList text)) = DateTime.ofWire v.wire := by
  rw [DateTime.ofWire_eq hkind]
  cases h with
  | date d =>
    obtain ⟨hyear, hmonth, hday⟩ := d.small
    have hnone : (ServerValue.date d).wire.millisecond = 0 := Nat.zero_div 1000
    rw [serverFraction_of_not_mem (point_not_mem_dateText d.year d.month d.day),
      DateTime.parse_eq (Reader.dateTime_printed_date hyear hmonth hday), hnone]
    rfl
  | dateTime d c hour_lt hds =>
    obtain ⟨hyear, hmonth, hday⟩ := d.small
    obtain ⟨hhour, hminute, hsecond⟩ := c.small
    have hpoint : '.' ∉ Reader.dateText d.year d.month d.day ++ [' '] :=
      List.not_mem_append (point_not_mem_dateText d.year d.month d.day) (by simp)
    have hread := Reader.dateTime_printed hyear hmonth hday hhour hminute hsecond
      (isDigit_keptDigits hds.isDigit) (hds.value_small c.microsecond_lt)
    rw [List.append_cons] at hread ⊢
    rw [serverFraction_shown hpoint c.hour c.minute c.second hds.isDigit, DateTime.parse_eq hread,
      hds.value_keptDigits c.microsecond_lt]
    rfl
  | time negative c signed hds => exact absurd rfl hkind

/-- A length of time without a sign is read from its texts as from a packet. -/
theorem Shows.parse_time {c : ServerClock} {signed : false = true → ¬ c.IsZero}
    (h : Shows (.time false c signed) text) :
    TimeOfDay.parse (ResultSet.serverFraction (String.ofList text)) =
      TimeOfDay.ofWire (ServerValue.time false c signed).wire := by
  cases h with
  | time _ _ _ hds =>
    obtain ⟨hhour, hminute, hsecond⟩ := c.small
    have hread := Reader.time_printed hhour hminute hsecond (isDigit_keptDigits hds.isDigit)
      (hds.value_small c.microsecond_lt)
    have hcut := serverFraction_shown List.not_mem_nil c.hour c.minute c.second hds.isDigit
    refine (congrArg TimeOfDay.parse hcut).trans ((TimeOfDay.parse_eq hread).trans ?_)
    rw [hds.value_keptDigits c.microsecond_lt]
    rfl

/-- The texts of a length of time with a sign are refused. -/
theorem Shows.parse_negative {c : ServerClock} {signed : true = true → ¬ c.IsZero}
    (h : Shows (.time true c signed) text) :
    ∃ e, TimeOfDay.parse (ResultSet.serverFraction (String.ofList text)) = .error e := by
  cases h with
  | time _ _ _ hds =>
    have hpoint : '.' ∉ ['-'] := by simp
    have hcut := serverFraction_shown hpoint c.hour c.minute c.second hds.isDigit
    exact ⟨_, (congrArg TimeOfDay.parse hcut).trans
      (TimeOfDay.parse_error (Reader.time_signed _))⟩

end ServerValue

/-! ## Values from texts -/

attribute [ext] ServerDate ServerClock

theorem ShowsFraction.value_lt (h : ShowsFraction microsecond ds) (hlt : microsecond < 10 ^ 6) :
    value ds < 2 ^ 32 := by
  obtain ⟨k, hdigits⟩ := h
  have hvalue := value_padded 6 microsecond
  rw [hdigits, value_append, value_replicate_zero, Nat.add_zero] at hvalue
  have hle : value ds ≤ microsecond :=
    hvalue ▸ Nat.le_mul_of_pos_left (value ds) (Nat.pow_pos (by decide))
  omega

/-- Digits show one number of microseconds only.  All six digits are known, because those that are
left out are zeros. -/
theorem ShowsFraction.unique {a b : Nat} (ha : ShowsFraction a ds) (hb : ShowsFraction b ds)
    (hlta : a < 10 ^ 6) (hltb : b < 10 ^ 6) : a = b := by
  obtain ⟨k, ha⟩ := ha
  obtain ⟨l, hb⟩ := hb
  have hlengtha : (padded 6 a).length = 6 := length_padded (by decide) hlta
  have hlengthb : (padded 6 b).length = 6 := length_padded (by decide) hltb
  rw [ha, List.length_append, List.length_replicate] at hlengtha
  rw [hb, List.length_append, List.length_replicate] at hlengthb
  obtain rfl : k = l := by omega
  rw [← value_padded 6 a, ha, ← hb, value_padded]

theorem fractionText_injective : Function.Injective Reader.fractionText := by
  intro ds es h
  cases ds with
  | nil =>
    cases es with
    | nil => rfl
    | cons e es => cases h
  | cons d ds =>
    cases es with
    | nil => cases h
    | cons e es =>
      cases h
      rfl

section Clocks

variable {c c' : ServerClock} {es : List Char}

theorem ServerClock.time_shown (c : ServerClock) (hds : ShowsFraction c.microsecond ds) :
    Reader.time (String.ofList
        (Reader.clockText c.hour c.minute c.second ++ Reader.fractionText ds)) =
      .ok { hour := c.hour, minute := c.minute, second := c.second, millisecond := value ds } := by
  obtain ⟨hhour, hminute, hsecond⟩ := c.small
  exact Reader.time_printed hhour hminute hsecond hds.isDigit (hds.value_lt c.microsecond_lt)

/-- A text shows one clock only.  Its hours, minutes and seconds are what is read, and the fraction
is what stands behind them. -/
theorem ServerClock.unique (hds : ShowsFraction c.microsecond ds)
    (hes : ShowsFraction c'.microsecond es)
    (h : Reader.clockText c.hour c.minute c.second ++ Reader.fractionText ds =
      Reader.clockText c'.hour c'.minute c'.second ++ Reader.fractionText es) : c = c' := by
  have hread := c.time_shown hds
  rw [h, c'.time_shown hes] at hread
  obtain ⟨hhour, hminute, hsecond, -⟩ := Reader.TimeFields.mk.inj (Except.ok.inj hread)
  rw [hhour, hminute, hsecond] at h
  obtain rfl := fractionText_injective (List.append_cancel_left h)
  exact ServerClock.ext hhour.symm hminute.symm hsecond.symm
    (hds.unique hes c.microsecond_lt c'.microsecond_lt)

/-- A clock is not shown with a sign. -/
theorem ServerClock.ne_signed (c : ServerClock) (hds : ShowsFraction c.microsecond ds)
    (text : List Char) :
    Reader.clockText c.hour c.minute c.second ++ Reader.fractionText ds ≠ '-' :: text := by
  intro h
  have hread := c.time_shown hds
  rw [h, Reader.time_signed] at hread
  cases hread

end Clocks

/-- A text shows one date only, whatever is shown behind it. -/
theorem ServerDate.unique {d d' : ServerDate} {f f' : Reader.TimeFields} {text : String}
    (h : Reader.dateTime text = .ok { year := d.year, month := d.month, day := d.day, time := f })
    (h' : Reader.dateTime text =
      .ok { year := d'.year, month := d'.month, day := d'.day, time := f' }) : d = d' := by
  rw [h] at h'
  obtain ⟨hyear, hmonth, hday, -⟩ := Reader.DateFields.mk.inj (Except.ok.inj h')
  exact ServerDate.ext hyear hmonth hday

namespace ServerValue

variable {v w : ServerValue} {text : List Char}

/-- A text shows one value of a kind only. -/
theorem Shows.unique (hv : v.Shows text) (hw : w.Shows text) (hkind : v.wire.kind = w.wire.kind) :
    v = w := by
  cases hv with
  | date d =>
    cases w with
    | date d' =>
      generalize htext : Reader.dateText d.year d.month d.day = text at hw
      cases hw
      have hread := Reader.dateTime_printed_date d.small.1 d.small.2.1 d.small.2.2
      have hread' := Reader.dateTime_printed_date d'.small.1 d'.small.2.1 d'.small.2.2
      exact congrArg ServerValue.date (ServerDate.unique (htext ▸ hread) hread')
    | _ => cases hkind
  | dateTime d c hour_lt hds =>
    cases w with
    | dateTime d' c' hour_lt' =>
      generalize htext : Reader.dateText d.year d.month d.day ++
        ' ' :: (Reader.clockText c.hour c.minute c.second ++ Reader.fractionText _) = text at hw
      cases hw with
      | dateTime _ _ _ hes =>
        have hread := Reader.dateTime_printed d.small.1 d.small.2.1 d.small.2.2 c.small.1
          c.small.2.1 c.small.2.2 hds.isDigit (hds.value_lt c.microsecond_lt)
        have hread' := Reader.dateTime_printed d'.small.1 d'.small.2.1 d'.small.2.2 c'.small.1
          c'.small.2.1 c'.small.2.2 hes.isDigit (hes.value_lt c'.microsecond_lt)
        obtain rfl := ServerDate.unique (htext ▸ hread) hread'
        obtain rfl := ServerClock.unique hds hes
          (List.cons.inj (List.append_cancel_left htext)).2
        rfl
    | _ => cases hkind
  | time negative c signed hds =>
    cases w with
    | time negative' c' signed' =>
      generalize htext : (if negative then ['-'] else []) ++
        (Reader.clockText c.hour c.minute c.second ++ Reader.fractionText _) = text at hw
      cases hw with
      | time _ _ _ hes =>
        cases negative with
        | false =>
          cases negative' with
          | false =>
            obtain rfl := ServerClock.unique hds hes htext
            rfl
          | true => exact absurd htext (c.ne_signed hds _)
        | true =>
          cases negative' with
          | false => exact absurd htext.symm (c'.ne_signed hes _)
          | true =>
            obtain rfl := ServerClock.unique hds hes (List.cons.inj htext).2
            rfl
    | _ => cases hkind

end ServerValue

end MariaClient.Temporal
