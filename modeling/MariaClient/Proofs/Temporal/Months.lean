import MariaClient.Proofs.Temporal.Reached

/-!
# Adding months and years

Months have numbers that go on from one year to the next (`DateTime.monthNumber`).  Adding months
adds to that number and fails only where the month lies in no year that a date can have
(`DateTime.addMonths_eq_ok_iff`).  Years are twelve months.  A day that the month does not have
becomes the first, and only then does it matter whether months are added at once or one after the
other.
-/

namespace MariaClient.Temporal.DateTime

open Calendar Text

variable {d e f : DateTime} {m k n : Int}

/-- The number of the month of a date. -/
def monthNumber (d : DateTime) : Int :=
  d.year * 12 + (d.month - 1)

/-- The date and time `e` is what `d` becomes in the month with the number `n`: the day stays if
that month has it and is the first otherwise, and the time stays. -/
structure MovedTo (d : DateTime) (n : Int) (e : DateTime) : Prop where
  year : 1 ≤ e.year ∧ e.year ≤ maxYear
  month : 1 ≤ e.month ∧ e.month ≤ 12
  number : e.monthNumber = n
  day : e.day = if d.day ≤ daysInMonth e.year e.month then d.day else 1
  time : e.time = d.time

theorem MovedTo.unique (he : d.MovedTo n e) (hf : d.MovedTo n f) : e = f := by
  obtain ⟨-, ⟨hfirst, hlast⟩, hnumber, hday, htime⟩ := he
  obtain ⟨-, ⟨hfirst', hlast'⟩, hnumber', hday', htime'⟩ := hf
  rw [monthNumber] at hnumber hnumber'
  have hyear : e.year = f.year := by omega
  have hmonth : e.month = f.month := by omega
  rw [hyear, hmonth, ← hday'] at hday
  rw [← htime'] at htime
  cases e
  cases f
  cases hyear
  cases hmonth
  cases hday
  cases htime
  rfl

/-! ## Another month -/

/-- The month of a year as a number from which year and month are told. -/
theorem withMonth_eq_ok_iff (hd : d.Valid) {year : Int} {month : Nat}
    (hmonth : 1 ≤ month ∧ month ≤ 12) :
    d.withMonth year month = .ok e ↔ d.MovedTo (year * 12 + (month - 1)) e := by
  obtain ⟨-, -, -, -, hday, -⟩ := validDate_spec hd.date
  have hmost : ((maxYear : Nat) : Int) = 65535 := rfl
  rw [withMonth]
  split
  · next hyear =>
    obtain ⟨y, rfl⟩ := Int.eq_ofNat_of_zero_le (a := year) (by omega)
    have hrange : 1 ≤ y ∧ y ≤ maxYear := by omega
    have hmoved : d.MovedTo ((y : Int) * 12 + (month - 1))
        { d with year := y, month, day := if validDate y month d.day then d.day else 1 } := by
      refine ⟨hrange, hmonth, rfl, ?_, rfl⟩
      rw [validDate_eq hrange hmonth.1 hday]
      exact if_congr decide_eq_true_iff rfl rfl
    constructor
    · rintro ⟨⟩
      exact hmoved
    · intro he
      exact congrArg Except.ok (hmoved.unique he)
  · next hyear =>
    constructor
    · rintro ⟨⟩
    · rintro ⟨⟨hfirst, hlast⟩, ⟨hfirstMonth, hlastMonth⟩, hnumber, -⟩
      rw [monthNumber] at hnumber
      omega

theorem withMonth_self (hd : d.Valid) : d.withMonth d.year d.month = .ok d := by
  obtain ⟨hyear, hlast, hmonth, hlastMonth, -, hday, -⟩ := validDate_spec hd.date
  rw [withMonth_eq_ok_iff hd ⟨hmonth, hlastMonth⟩]
  exact ⟨⟨hyear, hlast⟩, ⟨hmonth, hlastMonth⟩, rfl, (if_pos hday).symm, rfl⟩

/-- Adding no years is no exception. -/
theorem addYears_eq (hd : d.Valid) (n : Int) : d.addYears n = d.withMonth (d.year + n) d.month := by
  rw [addYears]
  split
  · next hn => rw [hn, add_zero, withMonth_self hd]
  · rfl

theorem addMonths_eq (hd : d.Valid) (n : Int) :
    d.addMonths n =
      d.withMonth ((d.monthNumber + n) / 12) (((d.monthNumber + n) % 12).toNat + 1) := by
  obtain ⟨-, -, hmonth, hlastMonth, -⟩ := validDate_spec hd.date
  rw [addMonths]
  split
  · next hn =>
    have hyear : d.monthNumber / 12 = d.year := by rw [monthNumber]; omega
    have hmonth : (d.monthNumber % 12).toNat + 1 = d.month := by rw [monthNumber]; omega
    rw [hn, add_zero, hyear, hmonth, withMonth_self hd]
  · rfl

/-! ## Months added -/

theorem addMonths_eq_ok_iff (hd : d.Valid) :
    d.addMonths n = .ok e ↔ d.MovedTo (d.monthNumber + n) e := by
  rw [addMonths_eq hd, withMonth_eq_ok_iff hd (by omega)]
  have hnumber : (d.monthNumber + n) / 12 * 12 +
      ((((d.monthNumber + n) % 12).toNat + 1 : Nat) - 1 : Int) = d.monthNumber + n := by omega
  rw [hnumber]

/-- Adding months fails only where the month lies in no year that a date can have. -/
theorem exists_addMonths_iff (hd : d.Valid) :
    (∃ e, d.addMonths n = .ok e) ↔
      1 ≤ (d.monthNumber + n) / 12 ∧ (d.monthNumber + n) / 12 ≤ maxYear := by
  rw [addMonths_eq hd, withMonth]
  split
  · next hyear => exact iff_of_true ⟨_, rfl⟩ hyear
  · next hyear =>
    refine iff_of_false ?_ hyear
    rintro ⟨e, ⟨⟩⟩

/-- Years are twelve months, also where they cannot be added. -/
theorem addYears_eq_addMonths (hd : d.Valid) (n : Int) : d.addYears n = d.addMonths (12 * n) := by
  obtain ⟨-, -, hmonth, hlastMonth, -⟩ := validDate_spec hd.date
  have hyear : (d.monthNumber + 12 * n) / 12 = d.year + n := by rw [monthNumber]; omega
  have hmonth : ((d.monthNumber + 12 * n) % 12).toNat + 1 = d.month := by rw [monthNumber]; omega
  rw [addYears_eq hd, addMonths_eq hd, hyear, hmonth]

/-! ## Months added one after the other -/

/-- Every month has the first 28 days. -/
theorem MovedTo.day_eq (h : d.MovedTo n e) (hday : d.day ≤ 28) : e.day = d.day := by
  rw [h.day, if_pos (Nat.le_trans hday (le_daysInMonth e.year h.month))]

theorem MovedTo.trans (he : d.MovedTo n e) (hf : e.MovedTo k f) (hday : d.day ≤ 28) :
    d.MovedTo k f where
  year := hf.year
  month := hf.month
  number := hf.number
  day := by rw [hf.day, he.day_eq hday]
  time := hf.time.trans he.time

theorem MovedTo.symm (h : d.MovedTo n e) (hd : d.Valid) (hday : d.day ≤ 28) :
    e.MovedTo d.monthNumber d := by
  obtain ⟨hyear, hlast, hmonth, hlastMonth, -, hexists, -⟩ := validDate_spec hd.date
  refine ⟨⟨hyear, hlast⟩, ⟨hmonth, hlastMonth⟩, rfl, ?_, h.time.symm⟩
  rw [h.day_eq hday, if_pos hexists]

/-- Between two months of the years that a date can have lie fewer months than a word of 32 bits
can count. -/
theorem MovedTo.fitsSigned (h : d.MovedTo (d.monthNumber + n) e) (hd : d.Valid) :
    fitsSigned 32 n = true := by
  obtain ⟨hyear, hlast, hmonth, hlastMonth, -⟩ := validDate_spec hd.date
  obtain ⟨⟨hyear', hlast'⟩, ⟨hmonth', hlastMonth'⟩, hnumber, -⟩ := h
  have hmost : maxYear = 65535 := rfl
  rw [monthNumber, monthNumber] at hnumber
  rw [fitsSigned_iff]
  omega

theorem addMonths_addMonths (hd : d.Valid) (hday : d.day ≤ 28) (he : d.addMonths m = .ok e)
    (hf : e.addMonths k = .ok f) : d.addMonths (m + k) = .ok f := by
  have hmoved := (addMonths_eq_ok_iff hd).1 he
  have hagain := (addMonths_eq_ok_iff (hd.addMonths he)).1 hf
  rw [hmoved.number, add_assoc] at hagain
  exact (addMonths_eq_ok_iff hd).2 (hmoved.trans hagain hday)

theorem addMonths_neg (hd : d.Valid) (hday : d.day ≤ 28) (he : d.addMonths m = .ok e) :
    e.addMonths (-m) = .ok d := by
  have hmoved := (addMonths_eq_ok_iff hd).1 he
  have hback := hmoved.symm hd hday
  rw [addMonths_eq_ok_iff (hd.addMonths he), hmoved.number, add_neg_cancel_right]
  exact hback

/-- Adding months moves to the month that is so many months away, wherever that lies in the years
that a date can have, and adding years is adding twelve times as many months.  From one of the first
28 days of a month, which every month has, months added one after the other are their sum, and
months that are taken away again give the date back. -/
theorem addMonths_exact (hd : d.Valid) :
    (∀ m : Int,
      ((∃ e, d.addMonths m = .ok e) ↔
        1 ≤ (d.monthNumber + m) / 12 ∧ (d.monthNumber + m) / 12 ≤ maxYear) ∧
      ∀ e, d.addMonths m = .ok e ↔ d.MovedTo (d.monthNumber + m) e) ∧
    (∀ n : Int, d.addYears n = d.addMonths (12 * n)) ∧
    (d.day ≤ 28 → ∀ (m k : Int) (e f : DateTime),
      d.addMonths m = .ok e → e.addMonths k = .ok f →
        fitsSigned 32 (m + k) = true ∧ d.addMonths (m + k) = .ok f) ∧
    (d.day ≤ 28 → ∀ (m : Int) (e : DateTime), d.addMonths m = .ok e → e.addMonths (-m) = .ok d) := by
  refine ⟨?_, addYears_eq_addMonths hd, ?_, ?_⟩
  · intro m
    exact ⟨exists_addMonths_iff hd, fun e ↦ addMonths_eq_ok_iff hd⟩
  · intro hday m k e f he hf
    have hsum := addMonths_addMonths hd hday he hf
    exact ⟨((addMonths_eq_ok_iff hd).1 hsum).fitsSigned hd, hsum⟩
  · intro hday m e he
    exact addMonths_neg hd hday he

/-- From the first month to the last and back, with a leap second that stays where it is. -/
theorem addMonths_exact_allMonths :
    let d : DateTime :=
      { year := 1
        month := 1
        day := 28
        time := { hour := 23, minute := 59, second := 61, millisecond := 999 } }
    let e : DateTime := { d with year := 65535, month := 12 }
    let f : DateTime := { d with year := 65534, month := 11 }
    d.Valid ∧ d.addMonths 786419 = .ok e ∧ e.addMonths (-786419) = .ok d ∧
      d.addMonths (786419 + -13) = .ok f ∧ (¬ ∃ g, d.addMonths 786420 = .ok g) ∧
      d.addYears 65535 = d.addMonths (12 * 65535) := by
  intro d e f
  have hd : d.Valid := ⟨rfl, rfl⟩
  have he : d.addMonths 786419 = .ok e := by decide +kernel
  have hf : e.addMonths (-13) = .ok f := by decide +kernel
  obtain ⟨hmonths, hyears, hsum, hback⟩ := addMonths_exact hd
  have hday : d.day ≤ 28 := Nat.le_refl 28
  refine ⟨hd, he, hback hday _ e he, (hsum hday _ _ e f he hf).2, ?_, hyears 65535⟩
  rw [(hmonths 786420).1]
  decide

/-- From the last day of January a month and a month back lead to the first. -/
example : ((DateTime.addMonths { year := 2000, day := 31 } 1).bind (·.addMonths (-1))) =
    .ok { year := 2000, day := 1 } := rfl

end MariaClient.Temporal.DateTime
