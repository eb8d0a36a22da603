import MariaClient.Proofs.Calendar.DayNumber

/-!
# The order of dates

Where stretches follow one another, the order of two places is that of the stretches they lie in,
and within one stretch that of the offsets (`compare_stretch`).  So dates are ordered by the year,
the month and the day as their numbers are (`compare_dayNumber`).
-/

namespace MariaClient.Calendar

theorem compare_congr {α β : Type} [LinearOrder α] [LinearOrder β] {a b : α} {c d : β}
    (hlt : a < b ↔ c < d) (hgt : b < a ↔ d < c) : compare a b = compare c d := by
  rcases lt_trichotomy a b with hab | rfl | hba
  · rw [compare_lt_iff_lt.2 hab, compare_lt_iff_lt.2 (hlt.1 hab)]
  · have heq : c = d :=
      le_antisymm (not_lt.1 (mt hgt.2 (lt_irrefl a))) (not_lt.1 (mt hlt.2 (lt_irrefl a)))
    rw [compare_eq_iff_eq.2 rfl, compare_eq_iff_eq.2 heq]
  · rw [compare_gt_iff_gt.2 hba, compare_gt_iff_gt.2 (hgt.1 hba)]

theorem compare_succ (a b : Nat) : compare (a + 1) (b + 1) = compare a b :=
  compare_congr Nat.succ_lt_succ_iff Nat.succ_lt_succ_iff

theorem compare_stretch {before length : Nat → Nat}
    (h : ∀ k, before (k + 1) = before k + length k) {a b x y : Nat} (hx : x < length a)
    (hy : y < length b) :
    compare (before a + x) (before b + y) = (compare a b).then (compare x y) := by
  rcases Nat.lt_trichotomy a b with hab | rfl | hba
  · rw [Nat.compare_eq_lt.2 hab, Nat.compare_eq_lt.2 (stretch_lt h hx hab), Ordering.lt_then]
  · rw [Nat.compare_eq_eq.2 rfl, Ordering.eq_then]
    exact compare_congr Nat.add_lt_add_iff_left Nat.add_lt_add_iff_left
  · rw [Nat.compare_eq_gt.2 hba, Nat.compare_eq_gt.2 (stretch_lt h hy hba), Ordering.gt_then]

/-- Places that are counted from one within their stretches. -/
theorem compare_place {before length : Nat → Nat}
    (h : ∀ k, before (k + 1) = before k + length k) {a b x y : Nat} (hx : 1 ≤ x ∧ x ≤ length a)
    (hy : 1 ≤ y ∧ y ≤ length b) :
    compare (before a + x) (before b + y) = (compare a b).then (compare x y) := by
  obtain ⟨x, rfl⟩ := Nat.exists_eq_add_of_le' hx.1
  obtain ⟨y, rfl⟩ := Nat.exists_eq_add_of_le' hy.1
  rw [← Nat.add_assoc, ← Nat.add_assoc, compare_succ, compare_succ]
  exact compare_stretch h hx.2 hy.2

/-- Two numbers in units with a part below one unit. -/
theorem compare_units {unit a b x y : Nat} (hx : x < unit) (hy : y < unit) :
    compare (a * unit + x) (b * unit + y) = (compare a b).then (compare x y) :=
  @compare_stretch (· * unit) (fun _ ↦ unit) (fun k ↦ Nat.succ_mul k unit) a b x y hx hy

variable {year month day year' month' day' : Nat}

/-- The days of one year are ordered as their numbers in it are. -/
theorem compare_dayOfYear (h : validDate year month day = true)
    (h' : validDate year month' day' = true) :
    compare (dayOfYear year month day) (dayOfYear year month' day') =
      (compare month month').then (compare day day') := by
  obtain ⟨-, -, hmonth, -, hpos, hday, -⟩ := validDate_spec h
  obtain ⟨-, -, hmonth', -, hpos', hday', -⟩ := validDate_spec h'
  obtain ⟨months, rfl⟩ := Nat.exists_eq_add_of_le' hmonth
  obtain ⟨months', rfl⟩ := Nat.exists_eq_add_of_le' hmonth'
  rw [dayOfYear_succ, dayOfYear_succ, compare_succ]
  exact compare_place (daysBeforeMonth_succ year) ⟨hpos, hday⟩ ⟨hpos', hday'⟩

/-- Dates are ordered as their numbers are. -/
theorem compare_dayNumber (h : validDate year month day = true)
    (h' : validDate year' month' day' = true) :
    compare (dayNumber year month day) (dayNumber year' month' day') =
      (compare year year').then ((compare month month').then (compare day day')) := by
  obtain ⟨hyear, -, -, -, -, -, hn, hle⟩ := validDate_spec h
  obtain ⟨hyear', -, -, -, -, -, hn', hle'⟩ := validDate_spec h'
  rw [dayNumber_of_validDate h, dayNumber_of_validDate h']
  obtain ⟨years, rfl⟩ := Nat.exists_eq_add_of_le' hyear
  obtain ⟨years', rfl⟩ := Nat.exists_eq_add_of_le' hyear'
  have hstep (k : Nat) := daysBeforeYear_succ (Nat.le_add_left 1 k)
  have hplaces := @compare_place (fun k ↦ daysBeforeYear (k + 1)) (fun k ↦ daysInYear (k + 1))
    hstep years years' _ _ ⟨hn, hle⟩ ⟨hn', hle'⟩
  have hnumbers : compare ((daysBeforeYear (years + 1) : Int) + dayOfYear (years + 1) month day - 1)
      (daysBeforeYear (years' + 1) + dayOfYear (years' + 1) month' day' - 1) =
      compare (daysBeforeYear (years + 1) + dayOfYear (years + 1) month day)
        (daysBeforeYear (years' + 1) + dayOfYear (years' + 1) month' day') :=
    compare_congr (by omega) (by omega)
  rw [hnumbers, hplaces, compare_succ]
  rcases Nat.lt_trichotomy years years' with hlt | rfl | hgt
  · rw [Nat.compare_eq_lt.2 hlt, Ordering.lt_then, Ordering.lt_then]
  · rw [compare_dayOfYear h h']
  · rw [Nat.compare_eq_gt.2 hgt, Ordering.gt_then, Ordering.gt_then]

end MariaClient.Calendar
