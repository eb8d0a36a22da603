import MariaClient.Attempt
import MariaClient.Proofs.Temporal.Instant

/-!
# Dates and times changed in place

A date or a time that someone holds is changed by writes to its fields, each of which is a word of
8 or 16 bits.  The checks stand before the first write and no write loses a bit, so that a change in
place leaves the changed value or, where it is refused, everything as it was
(`TimeField.assign_eq`, `DateField.assign_eq`).
-/

namespace MariaClient

/-! ## Steps one after the other -/

namespace Attempt

variable {σ α β : Type} {s : σ}

theorem state_bind (f : σ → Attempt σ α) : (state >>= f) s = f s s := rfl

theorem update_bind (g : σ → σ) (f : Unit → Attempt σ α) : (update g >>= f) s = f () (g s) := rfl

theorem except_bind_ok {r : Except Error α} {a : α} (h : r = .ok a) (f : α → Attempt σ β) :
    ((liftM r : Attempt σ α) >>= f) s = f a s := by
  rw [h]
  rfl

theorem except_bind_error {r : Except Error α} {e : Error} (h : r = .error e)
    (f : α → Attempt σ β) : ((liftM r : Attempt σ α) >>= f) s = (.error e, s) := by
  rw [h]
  rfl

end Attempt

namespace Temporal

open Calendar

/-! ## Fields as words -/

/-- The time in the words of its fields. -/
def TimeOfDay.stored (t : TimeOfDay) : TimeOfDay :=
  { hour := t.hour % 2 ^ 8
    minute := t.minute % 2 ^ 8
    second := t.second % 2 ^ 8
    millisecond := t.millisecond % 2 ^ 16 }

/-- The date with its time in the words of its fields. -/
def DateTime.stored (d : DateTime) : DateTime :=
  { year := d.year % 2 ^ 16
    month := d.month % 2 ^ 8
    day := d.day % 2 ^ 8
    time := d.time.stored }

theorem TimeOfDay.Valid.stored_eq {t : TimeOfDay} (h : t.Valid) : t.stored = t := by
  obtain ⟨hhour, hminute, hsecond, hmillisecond⟩ := valid_iff.1 h
  rw [stored, Nat.mod_eq_of_lt (Nat.lt_trans hhour (by decide)),
    Nat.mod_eq_of_lt (Nat.lt_trans hminute (by decide)),
    Nat.mod_eq_of_lt (Nat.lt_trans hsecond (by decide)),
    Nat.mod_eq_of_lt (Nat.lt_trans hmillisecond (by decide))]

/-- The numbers of a date that exists fit their words. -/
theorem fits_of_validDate {year month day : Nat} (h : validDate year month day = true) :
    year < 2 ^ 16 ∧ month < 2 ^ 8 ∧ day < 2 ^ 8 := by
  obtain ⟨-, hyear, -, hmonth, -, hday, -⟩ := validDate_spec h
  have hmonthDays := daysInMonth_le year month
  rw [maxYear] at hyear
  omega

theorem DateTime.Valid.stored_eq {d : DateTime} (h : d.Valid) : d.stored = d := by
  obtain ⟨hyear, hmonth, hday⟩ := fits_of_validDate h.date
  rw [stored, Nat.mod_eq_of_lt hyear, Nat.mod_eq_of_lt hmonth, Nat.mod_eq_of_lt hday,
    h.time.stored_eq]

/-! ## Times of day -/

/-- A field of a time of day. -/
inductive TimeField
  | hour
  | minute
  | second
  | millisecond
  deriving DecidableEq, Repr

namespace TimeField

/-- The number in a field. -/
def get (t : TimeOfDay) : TimeField → Nat
  | hour => t.hour
  | minute => t.minute
  | second => t.second
  | millisecond => t.millisecond

/-- The time with any number in a field. -/
def put (t : TimeOfDay) (n : Nat) : TimeField → TimeOfDay
  | hour => { t with hour := n }
  | minute => { t with minute := n }
  | second => { t with second := n }
  | millisecond => { t with millisecond := n }

/-- The time with another number in a field. -/
def set (t : TimeOfDay) (n : Nat) : TimeField → Except Error TimeOfDay
  | hour => t.setHour n
  | minute => t.setMinute n
  | second => t.setSecond n
  | millisecond => t.setMillisecond n

/-- Changes a field in place, and gives the number that is then in it. -/
def assign (f : TimeField) (n : Nat) : Attempt TimeOfDay Nat := do
  let t ← Attempt.state
  let changed ← f.set t n
  Attempt.update fun _ ↦ changed.stored
  return f.get (← Attempt.state)

variable {f : TimeField} {t u : TimeOfDay} {n : Nat} {e : Error}

theorem set_eq_ok_iff : f.set t n = .ok u ↔ (f.put t n).Valid ∧ f.put t n = u := by
  have hof (t : TimeOfDay) :
      TimeOfDay.of t.hour t.minute t.second t.millisecond = .ok u ↔ t.Valid ∧ t = u := by
    rw [TimeOfDay.of]
    split
    · next hvalid => exact ⟨by rintro ⟨⟩; exact ⟨hvalid, rfl⟩, by rintro ⟨-, rfl⟩; rfl⟩
    · next hinvalid => exact ⟨by rintro ⟨⟩, fun h ↦ absurd h.1 hinvalid⟩
  cases f with
  | hour => exact hof { t with hour := n }
  | minute => exact hof { t with minute := n }
  | second => exact hof { t with second := n }
  | millisecond => exact hof { t with millisecond := n }

theorem get_put : f.get (f.put t n) = n := by
  cases f <;> rfl

/-- A change in place is the change of the value, or none at all. -/
theorem assign_eq (f : TimeField) (n : Nat) (t : TimeOfDay) :
    f.assign n t =
      match f.set t n with
      | .ok u => (.ok n, u)
      | .error e => (.error e, t) := by
  rw [assign, Attempt.state_bind]
  cases h : f.set t n with
  | error e => rw [Attempt.except_bind_error rfl]
  | ok u =>
    obtain ⟨hvalid, rfl⟩ := set_eq_ok_iff.1 h
    rw [Attempt.except_bind_ok rfl, Attempt.update_bind, Attempt.state_bind, hvalid.stored_eq,
      get_put]
    rfl

/-- A change that is refused writes nothing. -/
theorem eq_of_assign_error (h : f.assign n t = (.error e, u)) : u = t := by
  rw [assign_eq] at h
  cases hset : f.set t n with
  | ok changed => rw [hset] at h; cases h
  | error refusal =>
    rw [hset] at h
    cases h
    rfl

end TimeField

/-! ## Dates with a time of day -/

/-- A field of a date with a time of day, or the number of its day within the year. -/
inductive DateField
  | year
  | month
  | day
  | time (f : TimeField)
  | dayOfYear
  deriving DecidableEq, Repr

namespace DateField

/-- The date and time with another number in a field. -/
def set (d : DateTime) (n : Nat) : DateField → Except Error DateTime
  | year => d.setYear n
  | month => d.setMonth n
  | day => d.setDay n
  | time .hour => d.setHour n
  | time .minute => d.setMinute n
  | time .second => d.setSecond n
  | time .millisecond => d.setMillisecond n
  | dayOfYear => d.setDayOfYear n

theorem set_time (d : DateTime) (n : Nat) (f : TimeField) :
    (time f).set d n = d.setTime (f.put d.time n) (f.set d.time n) := by
  cases f with
  | hour => rfl
  | minute => rfl
  | second => rfl
  | millisecond => rfl

/-- Makes a day that the month of a year does not have the first. -/
def resetDay (year month : Nat) : Attempt DateTime Unit := do
  let d ← Attempt.state
  if validDate year month d.day then return ()
  else Attempt.update ({ · with day := 1 })

/-- Changes the time within a date.  A refusal shows the given error. -/
def onTime (refusal : Error) (x : Attempt TimeOfDay Nat) : Attempt DateTime Nat := fun d ↦
  let (r, t) := x d.time
  (r.mapError fun _ ↦ refusal, { d with time := t })

/-- Changes a field in place, and gives the number that is then in it. -/
def assign (n : Nat) : DateField → Attempt DateTime Nat
  | year => do
    let d ← Attempt.state
    if n = 0 ∨ maxYear < n then Attempt.fail (DateTime.invalid n d.month d.day d.time)
    else
      Attempt.update ({ · with year := n % 2 ^ 16 })
      resetDay n d.month
      return (← Attempt.state).year
  | month => do
    let d ← Attempt.state
    if n < 1 ∨ 12 < n then Attempt.fail (DateTime.invalid d.year n d.day d.time)
    else
      Attempt.update ({ · with month := n % 2 ^ 8 })
      resetDay d.year n
      return (← Attempt.state).month
  | day => do
    let d ← Attempt.state
    if !validDate d.year d.month n then Attempt.fail (DateTime.invalid d.year d.month n d.time)
    else
      Attempt.update ({ · with day := n % 2 ^ 8 })
      return (← Attempt.state).day
  | time f => do
    let d ← Attempt.state
    onTime (DateTime.invalid d.year d.month d.day (f.put d.time n)) (f.assign n)
  | dayOfYear => do
    let d ← Attempt.state
    let date ← DateTime.ofDayOfYear d.year n
    Attempt.update ({ · with month := date.month })
    Attempt.update ({ · with day := date.day })
    return n

variable {f : DateField} {d e : DateTime} {n : Nat} {error : Error}

theorem resetDay_bind (year month : Nat) (x : Unit → Attempt DateTime Nat) :
    (resetDay year month >>= x) d =
      x () { d with day := if validDate year month d.day then d.day else 1 } := by
  rw [Attempt.bind_apply, resetDay, Attempt.state_bind]
  cases validDate year month d.day with
  | true => rfl
  | false => rfl

/-- A change in place is the change of the value, or none at all. -/
theorem assign_eq (f : DateField) (n : Nat) (d : DateTime) :
    f.assign n d =
      match f.set d n with
      | .ok e => (.ok n, e)
      | .error e => (.error e, d) := by
  cases f with
  | year =>
    rw [assign, Attempt.state_bind, set, DateTime.setYear]
    by_cases hyear : 1 ≤ n ∧ n ≤ maxYear
    · have hword : n % 2 ^ 16 = n := Nat.mod_eq_of_lt (Nat.lt_succ_of_le hyear.2)
      rw [if_pos hyear, if_neg (by omega), hword, Attempt.update_bind, resetDay_bind]
      rfl
    · rw [if_neg hyear, if_pos (by omega)]
      rfl
  | month =>
    rw [assign, Attempt.state_bind, set, DateTime.setMonth]
    by_cases hmonth : 1 ≤ n ∧ n ≤ 12
    · have hword : n % 2 ^ 8 = n := Nat.mod_eq_of_lt (by omega)
      rw [if_pos hmonth, if_neg (by omega), hword, Attempt.update_bind, resetDay_bind]
      rfl
    · rw [if_neg hmonth, if_pos (by omega)]
      rfl
  | day =>
    rw [assign, Attempt.state_bind, set, DateTime.setDay]
    cases hday : validDate d.year d.month n with
    | true =>
      have hword : n % 2 ^ 8 = n := Nat.mod_eq_of_lt (fits_of_validDate hday).2.2
      rw [hword]
      rfl
    | false => rfl
  | time f =>
    rw [assign, Attempt.state_bind, onTime, TimeField.assign_eq, set_time]
    cases f.set d.time n with
    | ok t => rfl
    | error e => rfl
  | dayOfYear =>
    rw [assign, Attempt.state_bind, set, DateTime.setDayOfYear]
    cases DateTime.ofDayOfYear d.year n with
    | ok date =>
      rw [Attempt.except_bind_ok rfl]
      rfl
    | error e =>
      rw [Attempt.except_bind_error rfl]
      rfl

theorem set_of_assign_ok {m : Nat} (h : f.assign n d = (.ok m, e)) : f.set d n = .ok e := by
  rw [assign_eq] at h
  cases hset : f.set d n with
  | ok changed =>
    rw [hset] at h
    cases h
    rfl
  | error refusal => rw [hset] at h; cases h

/-- A change that is refused writes nothing. -/
theorem eq_of_assign_error (h : f.assign n d = (.error error, e)) : e = d := by
  rw [assign_eq] at h
  cases hset : f.set d n with
  | ok changed => rw [hset] at h; cases h
  | error refusal =>
    rw [hset] at h
    cases h
    rfl

end DateField

end Temporal

end MariaClient
