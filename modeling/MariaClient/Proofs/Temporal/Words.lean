import MariaClient.Proofs.Temporal.Instant

/-!
# Date arithmetic on machine words

The arithmetic of dates done on words of a fixed width, where an operation whose result is too wide
gives nothing at all.  An operation that is checked answers with an error instead, as it does in
the arithmetic on numbers without bounds.  For dates and times that exist, spans within the limits
of their parts and amounts of 64 bits no operation overflows, and the two arithmetics agree
(`addDays_eq`, `addMilliseconds_eq`, `addUnits_eq`, `add_eq`).
-/

namespace MariaClient.Temporal

/-- A span that can be made: its days are a word of 32 bits and each other part is within its
limit. -/
structure Span.Valid (s : Span) : Prop where
  days : s.days < 2 ^ 32
  hours : s.hours ≤ SpanPart.hours.limit
  minutes : s.minutes ≤ SpanPart.minutes.limit
  seconds : s.seconds ≤ SpanPart.seconds.limit
  milliseconds : s.milliseconds ≤ SpanPart.milliseconds.limit

namespace Words

open Calendar Text

/-! ## Words -/

/-- A signed word of 64 bits, and nothing if the number is too wide. -/
def signed (n : Int) : Option Int :=
  if fitsSigned 64 n then some n else none

/-- An unsigned word of some bits, and nothing if the number is negative or too wide. -/
def unsigned (bits : Nat) (n : Int) : Option Nat :=
  if 0 ≤ n ∧ n < 2 ^ bits then some n.toNat else none

theorem signed_eq {n : Int} (h : n.natAbs < 9223372036854775808) : signed n = some n := by
  have hfits : fitsSigned 64 n = true := by
    rw [fitsSigned_iff]
    omega
  rw [signed, if_pos hfits]

theorem unsigned_eq {bits k : Nat} {n : Int} (hn : n = k) (h : k < 2 ^ bits) :
    unsigned bits n = some k := by
  rw [unsigned, if_pos ⟨hn ▸ Int.natCast_nonneg k, by rw [hn]; exact_mod_cast h⟩, hn,
    Int.toNat_natCast]

section Bind

variable {α : Type}

theorem some_bind {β : Type} (a : β) (f : β → Option α) : (some a >>= f) = f a := rfl

theorem signed_bind {n : Int} {f : Int → Option α} (h : n.natAbs < 9223372036854775808) :
    (signed n >>= f) = f n := by
  rw [signed_eq h, some_bind]

theorem unsigned_bind {bits k : Nat} {n : Int} {f : Nat → Option α} (hn : n = k)
    (h : k < 2 ^ bits) : (unsigned bits n >>= f) = f k := by
  rw [unsigned_eq hn h, some_bind]

end Bind

theorem unsigned_sum {bits : Nat} (f : Nat → Nat) :
    ∀ {ks : List Nat} {init : Nat}, init + (ks.map f).sum < 2 ^ bits →
      ks.foldlM (fun sum k ↦ unsigned bits (sum + f k)) init = some (init + (ks.map f).sum)
  | [], init, _ => rfl
  | k :: ks, init, h => by
    rw [List.map_cons, List.sum_cons, ← Nat.add_assoc] at h ⊢
    have hfirst : unsigned bits (init + f k) = some (init + f k) :=
      unsigned_eq (Int.natCast_add _ _).symm (Nat.lt_of_le_of_lt (Nat.le_add_right _ _) h)
    rw [List.foldlM_cons, hfirst]
    exact unsigned_sum f h

/-! ## Days of a year -/

/-- The number of the day of a date within its year. -/
def dayOfYear (d : DateTime) : Option Nat := do
  let before ← (List.range (d.month - 1)).foldlM
    (fun sum m ↦ unsigned 32 (sum + daysInMonth d.year (m + 1))) 0
  unsigned 32 (before + d.day)

/-- The month that holds the `n`-th of the days which begin with `month`. -/
def findMonth (year month n : Nat) : Nat → Option (Option (Nat × Nat))
  | 0 => return none
  | left + 1 => do
    if n ≤ daysInMonth year month then return some (month, n)
    let rest ← unsigned 32 (n - daysInMonth year month)
    findMonth year (month + 1) rest left

/-- The date of the `n`-th day of a year. -/
def ofDayOfYear (year n : Nat) : Option (Except Error DateTime) := do
  let found ← if n = 0 ∨ daysInYear year < n then some none else findMonth year 1 n 12
  match found with
  | none => return .error (DateTime.invalid year 0 n {})
  | some (month, day) => return DateTime.ofDate year month day

/-! ## Milliseconds -/

/-- The milliseconds since midnight. -/
def msOfDay (t : TimeOfDay) : Option Int := do
  let hours ← signed (t.hour * msPerHour)
  let minutes ← signed (t.minute * msPerMinute)
  let seconds ← signed (t.second * msPerSecond)
  let sum ← signed (hours + minutes)
  let sum ← signed (sum + seconds)
  signed (sum + t.millisecond)

/-- The time of day so many milliseconds after midnight. -/
def ofMsOfDay (ms : Int) : Option TimeOfDay := do
  let ms ← signed (ms % msPerDay)
  let hour ← unsigned 8 (ms / msPerHour)
  let minute ← unsigned 8 (ms % msPerHour / msPerMinute)
  let second ← unsigned 8 (ms % msPerMinute / msPerSecond)
  let millisecond ← unsigned 16 (ms % msPerSecond)
  return { hour, minute, second, millisecond }

/-- A total in units of which one has `factor` smaller units, with a part in these. -/
def carry (total factor part : Nat) : Option Nat := do
  let product ← unsigned 64 (total * factor)
  unsigned 64 (product + part)

/-- The milliseconds of a span with its sign. -/
def signedMilliseconds (s : Span) : Option Int := do
  let hours ← carry s.days 24 s.hours
  let minutes ← carry hours 60 s.minutes
  let seconds ← carry minutes 60 s.seconds
  let total ← signed (← carry seconds 1000 s.milliseconds)
  if s.negative then signed (-total) else return total

/-! ## Adding -/

/-- Counts `n` days from the start of `year` through at most `left` more years. -/
def daysForward (year n : Int) : Nat → Option (Option (Nat × Nat))
  | 0 => do
    let first ← unsigned 32 year
    if n ≤ daysInYear first then return some (first, ← unsigned 32 n)
    let _ ← signed (n - daysInYear first)
    let _ ← signed (year + 1)
    return none
  | left + 1 => do
    let first ← unsigned 32 year
    if n ≤ daysInYear first then return some (first, ← unsigned 32 n)
    let rest ← signed (n - daysInYear first)
    let next ← signed (year + 1)
    daysForward next rest left

/-- The year and the number in it of the day that is number `n` of the given year. -/
def daysBackward : Nat → Int → Option (Option (Nat × Nat))
  | 0, _ => return none
  | year + 1, n => do
    if 1 ≤ n then return some (year + 1, ← unsigned 32 n)
    let earlier ← signed ((year + 1 : Nat) - 1)
    let sum ← signed (n + daysInYear (← unsigned 32 earlier))
    daysBackward year sum

/-- The year and the place in it of the day that is number `target` of the year of a date. -/
def walk (d : DateTime) (target : Int) : Option (Option (Nat × Nat)) :=
  if 1 ≤ target then daysForward d.year target (maxYear - d.year)
  else daysBackward d.year target

/-- Adds days. -/
def addDays (d : DateTime) (n : Int) : Option (Except Error DateTime) := do
  if n = 0 then return .ok d
  match signed ((← dayOfYear d) + n) with
  | none => return .error (d.outOfYears (if 0 < n then DateTime.unboundedYear else 0))
  | some target =>
    match ← walk d target with
    | none => return .error (d.outOfYears (if 0 < n then maxYear + 1 else 0))
    | some (year, k) => return (← ofDayOfYear year k).map fun date ↦ { date with time := d.time }

/-- Adds milliseconds, which carry into the days. -/
def addMilliseconds (d : DateTime) (n : Int) : Option (Except Error DateTime) := do
  if n = 0 then return .ok d
  match signed ((← msOfDay d.time) + n) with
  | none => return .error (d.outOfYears DateTime.unboundedYear)
  | some total =>
    let moved ← addDays d (← signed (total / msPerDay))
    let time ← ofMsOfDay (← signed (total % msPerDay))
    return moved.map fun e ↦ { e with time }

/-- Adds so many units of a number of milliseconds. -/
def addUnits (d : DateTime) (n : Int) (unit : Nat) : Option (Except Error DateTime) :=
  match signed (n * unit) with
  | none => return .error (d.outOfYears DateTime.unboundedYear)
  | some total => addMilliseconds d total

/-- Adds a span, its days included. -/
def add (d : DateTime) (s : Span) : Option (Except Error DateTime) := do
  addMilliseconds d (← signedMilliseconds s)

/-- Adds a time of day as a length of time. -/
def addTime (d : DateTime) (t : TimeOfDay) : Option (Except Error DateTime) := do
  addMilliseconds d (← msOfDay t)

/-- Takes a time of day off as a length of time. -/
def subtractTime (d : DateTime) (t : TimeOfDay) : Option (Except Error DateTime) := do
  addMilliseconds d (← signed (-(← msOfDay t)))

/-! ## No operation overflows -/

variable {d : DateTime}

theorem dayOfYear_eq (h : validDate d.year d.month d.day = true) :
    dayOfYear d = some d.dayOfYear := by
  obtain ⟨-, -, -, hmonth, -, -, -, hle⟩ := validDate_spec h
  have hfits : d.dayOfYear < 2 ^ 32 :=
    Nat.lt_of_le_of_lt (Nat.le_trans hle (daysInYear_bounds d.year).2) (by decide)
  have hmonths : d.dayOfYear =
      0 + ((List.range (d.month - 1)).map fun m ↦ daysInMonth d.year (m + 1)).sum + d.day := by
    rw [DateTime.dayOfYear, Calendar.dayOfYear, daysBeforeMonth, Nat.min_eq_left (by omega),
      Nat.zero_add]
  rw [hmonths] at hfits ⊢
  have hbefore := @unsigned_sum 32 (fun m ↦ daysInMonth d.year (m + 1))
    (List.range (d.month - 1)) 0 (Nat.lt_of_le_of_lt (Nat.le_add_right _ _) hfits)
  rw [dayOfYear, hbefore, some_bind]
  exact @unsigned_eq 32 _ _ (Int.natCast_add _ _).symm hfits

theorem findMonth_eq {year left : Nat} :
    ∀ {month n : Nat}, n < 2 ^ 32 →
      findMonth year month n left = some (Calendar.findMonth year month n left) := by
  induction left with
  | zero =>
    rintro month n -
    rfl
  | succ left ih =>
    rintro month n hn
    rw [findMonth, Calendar.findMonth]
    split
    · rfl
    · next hle =>
      rw [unsigned_eq (k := n - daysInMonth year month) (by omega) (by omega)]
      exact ih (by omega)

theorem ofDayOfYear_eq {year n : Nat} (hn : n < 2 ^ 32) :
    ofDayOfYear year n = some (DateTime.ofDayOfYear year n) := by
  rw [ofDayOfYear, DateTime.ofDayOfYear, monthAndDay, findMonth_eq hn]
  split
  · rfl
  · cases Calendar.findMonth year 1 n 12 with
    | none => rfl
    | some found => rfl

theorem msOfDay_eq {t : TimeOfDay} (h : t.Valid) : msOfDay t = some (t.msOfDay : Int) := by
  have hlt := TimeOfDay.valid_iff.1 h
  have hhour : (msPerHour : Int) = 3600000 := rfl
  have hminute : (msPerMinute : Int) = 60000 := rfl
  have hsecond : (msPerSecond : Int) = 1000 := rfl
  rw [msOfDay, TimeOfDay.msOfDay]
  push_cast
  rw [hhour, hminute, hsecond, signed_bind (by omega), signed_bind (by omega),
    signed_bind (by omega), signed_bind (by omega), signed_bind (by omega), signed_eq (by omega)]

theorem ofMsOfDay_eq (ms : Int) : ofMsOfDay ms = some (.ofMsOfDay ms) := by
  have hms : ms % msPerDay = (ms % msPerDay).toNat :=
    (Int.toNat_of_nonneg (Int.emod_nonneg _ (by decide))).symm
  have hday : (ms % msPerDay).toNat < 86400000 := by
    have hlt := Int.emod_lt_of_pos ms (show (0 : Int) < msPerDay by decide)
    simp only [msPerDay, msPerHour, msPerMinute, msPerSecond] at hlt ⊢
    omega
  rw [ofMsOfDay, TimeOfDay.ofMsOfDay, hms, Int.toNat_natCast]
  generalize (ms % msPerDay).toNat = ms at hday ⊢
  have hfits : ms / msPerHour < 2 ^ 8 ∧ ms % msPerHour / msPerMinute < 2 ^ 8 ∧
      ms % msPerMinute / msPerSecond < 2 ^ 8 ∧ ms % msPerSecond < 2 ^ 16 := by
    simp only [msPerHour, msPerMinute, msPerSecond]
    omega
  obtain ⟨hhour, hminute, hsecond, hmillisecond⟩ := hfits
  rw [signed_bind (by omega), unsigned_bind (by push_cast; rfl) hhour,
    unsigned_bind (by push_cast; rfl) hminute, unsigned_bind (by push_cast; rfl) hsecond,
    unsigned_bind (by push_cast; rfl) hmillisecond]
  rfl

theorem carry_bind {α : Type} {total factor part sum : Nat} {f : Nat → Option α}
    (hsum : total * factor + part = sum) (h : sum < 2 ^ 64) :
    (carry total factor part >>= f) = f sum := by
  subst hsum
  rw [carry, unsigned_bind (Int.natCast_mul _ _).symm (Nat.lt_of_le_of_lt (Nat.le_add_right _ _) h),
    unsigned_bind (Int.natCast_add _ _).symm h]

theorem signedMilliseconds_eq {s : Span} (h : s.Valid) :
    signedMilliseconds s = some s.signedMilliseconds := by
  obtain ⟨hdays, hhours, hminutes, hseconds, hmilliseconds⟩ := h
  simp only [SpanPart.limit] at hhours hminutes hseconds hmilliseconds
  have htotal : s.totalHours < 2 ^ 37 ∧ s.totalMinutes < 2 ^ 43 ∧ s.totalSeconds < 2 ^ 49 ∧
      s.totalMilliseconds < 2 ^ 59 := by
    simp only [Span.totalMilliseconds, Span.totalSeconds, Span.totalMinutes, Span.totalHours]
    omega
  rw [signedMilliseconds, carry_bind (show _ = s.totalHours from rfl) (by omega),
    carry_bind (show _ = s.totalMinutes from rfl) (by omega),
    carry_bind (show _ = s.totalSeconds from rfl) (by omega),
    carry_bind (show _ = s.totalMilliseconds from rfl) (by omega), signed_bind (by omega),
    Span.signedMilliseconds]
  split
  · exact signed_eq (by omega)
  · rfl

/-- The walk to later years stays in the words as long as the years do. -/
theorem daysForward_eq {left : Nat} :
    ∀ {year n : Nat}, year + left < 2 ^ 32 → n < 9223372036854775808 →
      daysForward year n left = some (DateTime.daysForward year n left) := by
  induction left with
  | zero =>
    rintro year n hyear hn
    have hlength := daysInYear_bounds year
    rw [daysForward, DateTime.daysForward, unsigned_bind rfl (by omega)]
    by_cases hle : n ≤ daysInYear year
    · rw [if_pos (by omega), if_pos hle, unsigned_bind rfl (by omega)]
      rfl
    · rw [if_neg (by omega), if_neg hle, signed_bind (by omega), signed_bind (by omega)]
      rfl
  | succ left ih =>
    rintro year n hyear hn
    have hlength := daysInYear_bounds year
    rw [daysForward, DateTime.daysForward, unsigned_bind rfl (by omega)]
    by_cases hle : n ≤ daysInYear year
    · rw [if_pos (by omega), if_pos hle, unsigned_bind rfl (by omega)]
      rfl
    · have hrest : (n : Int) - daysInYear year = (n - daysInYear year : Nat) := by omega
      rw [if_neg (by omega), if_neg hle, signed_bind (by omega), signed_bind (by omega), hrest]
      exact @ih (year + 1) _ (by omega) (by omega)

/-- The walk to earlier years stays in the words. -/
theorem daysBackward_eq {year : Nat} :
    ∀ {n : Int}, year < 2 ^ 32 → -9223372036854775808 ≤ n → n ≤ 366 →
      daysBackward year n = some (DateTime.daysBackward year n) := by
  induction year with
  | zero =>
    rintro n - - -
    rfl
  | succ year ih =>
    rintro n hyear hlow hhigh
    have hlength := daysInYear_bounds year
    rw [daysBackward, DateTime.daysBackward]
    split
    · next hn =>
      rw [unsigned_bind (Int.toNat_of_nonneg (by omega)).symm (by omega)]
      rfl
    · next hn =>
      rw [signed_bind (by omega), unsigned_bind (k := year) (by omega) (by omega),
        signed_bind (by omega)]
      exact ih (by omega) (by omega) (by omega)

theorem walk_eq (hd : validDate d.year d.month d.day = true) {target : Int}
    (h : fitsSigned 64 target = true) : walk d target = some (d.walk target) := by
  have hlast : d.year ≤ maxYear := (validDate_spec hd).2.1
  rw [fitsSigned_iff] at h
  rw [walk, DateTime.walk]
  split
  · next htarget =>
    have hyears : d.year + (maxYear - d.year) < 2 ^ 32 := by
      rw [Nat.add_sub_of_le hlast]
      exact Nat.lt_of_succ_lt (show 65535 + 1 < 2 ^ 32 by decide)
    have hforward := @daysForward_eq (maxYear - d.year) d.year target.toNat hyears (by omega)
    rwa [Int.toNat_of_nonneg (by omega)] at hforward
  · next htarget =>
    have hyears : d.year < 2 ^ 32 := Nat.lt_of_le_of_lt hlast (by decide)
    exact daysBackward_eq hyears (by omega) (by omega)

theorem addDays_eq (hd : validDate d.year d.month d.day = true) (n : Int) :
    addDays d n = some (d.addDays n) := by
  by_cases hn : n = 0
  · rw [addDays, if_pos hn, DateTime.addDays, if_pos hn]
    rfl
  rw [addDays, if_neg hn, DateTime.addDays_eq d hn, dayOfYear_eq hd, some_bind, signed]
  by_cases hfits : fitsSigned 64 (d.dayOfYear + n) = true
  · rw [if_pos hfits, if_pos hfits]
    dsimp only
    rw [walk_eq hd hfits, some_bind]
    cases hwalk : d.walk (d.dayOfYear + n) with
    | none => rfl
    | some found =>
      obtain ⟨year, k⟩ := found
      have hk : k < 2 ^ 32 :=
        Nat.lt_of_le_of_lt (Nat.le_trans ((DateTime.walk_eq_some_iff hd).1 hwalk).1.le
          (daysInYear_bounds year).2) (by decide)
      dsimp only
      rw [ofDayOfYear_eq hk]
      rfl
  · rw [if_neg hfits, if_neg hfits]
    rfl

theorem addMilliseconds_eq (hd : d.Valid) (n : Int) :
    addMilliseconds d n = some (d.addMilliseconds n) := by
  by_cases hn : n = 0
  · rw [addMilliseconds, if_pos hn, DateTime.addMilliseconds, if_pos hn]
    rfl
  rw [addMilliseconds, if_neg hn, DateTime.addMilliseconds_eq d hn, msOfDay_eq hd.time,
    some_bind, signed]
  by_cases hfits : fitsSigned 64 (d.time.msOfDay + n) = true
  · rw [if_pos hfits, if_pos hfits]
    dsimp only
    rw [fitsSigned_iff] at hfits
    generalize (d.time.msOfDay + n : Int) = total at hfits ⊢
    have hdays : (total / msPerDay).natAbs < 9223372036854775808 := by
      simp only [msPerDay, msPerHour, msPerMinute, msPerSecond]
      omega
    have hrest : (total % msPerDay).natAbs < 9223372036854775808 := by
      simp only [msPerDay, msPerHour, msPerMinute, msPerSecond]
      omega
    rw [signed_bind hdays, addDays_eq hd.date, some_bind,
      signed_bind hrest, ofMsOfDay_eq]
    rfl
  · rw [if_neg hfits, if_neg hfits]
    rfl

theorem addUnits_eq (hd : d.Valid) (n : Int) (unit : Nat) :
    addUnits d n unit = some (d.addUnits n unit) := by
  rw [addUnits, DateTime.addUnits, signed]
  by_cases hfits : fitsSigned 64 (n * unit) = true
  · rw [if_pos hfits, if_pos hfits]
    dsimp only
    rw [addMilliseconds_eq hd]
  · rw [if_neg hfits, if_neg hfits]
    rfl

theorem add_eq (hd : d.Valid) {s : Span} (hs : s.Valid) : add d s = some (d.add s) := by
  rw [add, signedMilliseconds_eq hs, some_bind, addMilliseconds_eq hd, DateTime.add]

theorem addTime_eq (hd : d.Valid) {t : TimeOfDay} (ht : t.Valid) :
    addTime d t = some (d.addTime t) := by
  rw [addTime, msOfDay_eq ht, some_bind, addMilliseconds_eq hd, DateTime.addTime]

theorem subtractTime_eq (hd : d.Valid) {t : TimeOfDay} (ht : t.Valid) :
    subtractTime d t = some (d.subtractTime t) := by
  have hday : t.msOfDay < 86402000 := ht.msOfDay_lt
  rw [subtractTime, msOfDay_eq ht, some_bind, signed_bind (by omega),
    addMilliseconds_eq hd, DateTime.subtractTime]

end Words

end MariaClient.Temporal
