import MariaClient.Proofs.Decimal.Number
import MariaClient.Proofs.Decimal.Printed

/-!
# Sums of decimals

The right operand of a sum is first brought to the precision of the left one, where it is the number
cut off (`truncates_iff_valueAt`).  This value has to fit by itself, which it does at any precision
that is not higher than its own; then only the sum can overflow (`add_sub_rescaled`).  At a higher
one it may not fit though the sum would (`add_sub_overflow`).  The value depends on the precision of
the left operand only, which the sum keeps, so that adding and taking away undo each other
(`add_eq_ok_iff_sub`).
-/

namespace MariaClient.Decimal

open Text

/-- The value of a decimal at another precision, however large.  Fraction digits that do not fit are
cut off. -/
def valueAt (d : Decimal) (p : Nat) : Int :=
  if d.precision ≤ p then d.widened p else d.value.tdiv (10 ^ (d.precision - p))

variable {a b d : Decimal} {p : Nat}

/-! ## Whole numbers cut off -/

/-- The quotient cut off is not further from zero than the quotient, and less than one from it. -/
theorem tdiv_spec (v : Int) {k : Int} (hk : 0 < k) :
    |(v.tdiv k : ℚ)| ≤ |(v : ℚ) / k| ∧ |(v : ℚ) / k - v.tdiv k| < 1 := by
  have hpos : (0 : ℚ) < k := by exact_mod_cast hk
  have hwithin : |v.tdiv k * k| ≤ |v| := by
    rw [Int.abs_eq_natAbs, Int.abs_eq_natAbs, Int.natAbs_mul, Int.natAbs_tdiv]
    exact_mod_cast Nat.div_mul_le_self _ _
  have hclose : |v.tmod k| < k := by
    rw [Int.abs_eq_natAbs, Int.natAbs_tmod]
    have hlt := Nat.mod_lt v.natAbs (Int.natAbs_pos.2 hk.ne')
    omega
  have hrest : (v : ℚ) / k - v.tdiv k = v.tmod k / k := by
    have hsplit : ((v.tdiv k * k + v.tmod k : Int) : ℚ) = v :=
      congrArg _ (Int.tdiv_mul_add_tmod v k)
    rw [← hsplit]
    push_cast
    field_simp
    ring
  constructor
  · rw [abs_div, abs_of_pos hpos, le_div_iff₀ hpos]
    rw [abs_mul, abs_of_pos hk] at hwithin
    exact_mod_cast hwithin
  · rw [hrest, abs_div, abs_of_pos hpos, div_lt_one hpos]
    exact_mod_cast hclose

theorem fits_tdiv {v k : Int} (hk : 0 ≤ k) (h : fits v = true) : fits (v.tdiv k) = true := by
  have hle := Int.natAbs_tdiv_le_natAbs v k
  rw [fits_iff] at h ⊢
  rcases le_total 0 v with hv | hv
  · have hpos := Int.tdiv_nonneg hv hk
    omega
  · have hneg := Int.tdiv_nonneg (Int.neg_nonneg_of_nonpos hv) hk
    rw [Int.neg_tdiv] at hneg
    omega

/-! ## The value at another precision -/

/-- A precision that is not lower shows all of the number. -/
theorem number_mul_eq_widened (h : d.precision ≤ p) : d.number * 10 ^ p = (d.widened p : Int) := by
  obtain ⟨k, rfl⟩ := Nat.exists_eq_add_of_le h
  rw [number, widened, Nat.add_sub_cancel_left, pow_add]
  push_cast
  field_simp

theorem truncates_valueAt (d : Decimal) (p : Nat) : Truncates d.number ⟨d.valueAt p, p⟩ := by
  rw [truncates_iff, valueAt]
  split
  · next hle =>
    rw [number_mul_eq_widened hle, sub_self, abs_zero]
    exact ⟨le_rfl, one_pos⟩
  · next hlt =>
    obtain ⟨k, hk⟩ := Nat.exists_eq_add_of_le (Nat.le_of_not_le hlt)
    rw [number, hk, Nat.add_sub_cancel_left]
    have hscaled : (d.value : ℚ) / 10 ^ (p + k) * 10 ^ p = d.value / (10 ^ k : Int) := by
      rw [pow_add]
      push_cast
      field_simp
    rw [hscaled]
    exact tdiv_spec d.value (pow_pos (by norm_num) k)

/-- At every precision the number of a decimal is cut off at its value there, and nowhere else. -/
theorem truncates_iff_valueAt (d : Decimal) (p : Nat) (m : Int) :
    Truncates d.number ⟨m, p⟩ ↔ m = d.valueAt p := by
  constructor
  · intro h
    exact h.unique (truncates_valueAt d p)
  · rintro rfl
    exact truncates_valueAt d p

/-- A value at a precision that is not higher fits. -/
theorem fits_valueAt (hd : d.Valid) (hle : p ≤ d.precision) : fits (d.valueAt p) = true := by
  rw [valueAt]
  split
  · next hge =>
    have hsame : d.widened p = d.value := by
      rw [widened, Nat.sub_eq_zero_of_le hle, pow_zero, mul_one]
    rw [hsame]
    exact hd.1
  · exact fits_tdiv (pow_nonneg (by norm_num) _) hd.1

theorem rescaled_eq (hd : d.Valid) (p : Nat) : d.rescaled p = checked .rescale (d.valueAt p) := by
  rw [rescaled]
  split
  · next hle => rw [valueAt, if_pos hle, widened]
  · next hlt =>
    have hfits := fits_valueAt hd (Nat.le_of_not_le hlt)
    rw [checked, if_pos hfits, valueAt, if_neg hlt]

/-! ## Sums and differences -/

/-- A value that is rescaled and then goes into a result has to fit before the result does. -/
theorem rescaled_bind (hb : b.Valid) (op : DecimalOp) (f : Int → Int) (p q : Nat) :
    (do
      let t ← b.rescaled p
      let value ← checked op (f t)
      return (⟨value, q⟩ : Decimal)) =
      if fits (b.valueAt p) then
        if fits (f (b.valueAt p)) then .ok ⟨f (b.valueAt p), q⟩ else .error (overflow op)
      else .error (overflow .rescale) := by
  rw [rescaled_eq hb]
  by_cases ht : fits (b.valueAt p) = true
  · rw [checked_bind_of_fits _ ht, if_pos ht, checked_result]
  · rw [checked_bind_of_not_fits _ ht, if_neg ht]

/-- The sum and the difference take the right decimal at the precision of the left one, cut off.
They fail only where that value does not fit, as it always does from a precision that is not lower,
or where the result does not. -/
theorem add_sub_rescaled (hb : b.Valid) :
    let t := b.valueAt a.precision
    (∀ m, Truncates b.number ⟨m, a.precision⟩ ↔ m = t) ∧
      (a.precision ≤ b.precision → fits t = true) ∧
      a.add b =
        (if fits t then
          if fits (a.value + t) then .ok ⟨a.value + t, a.precision⟩ else .error (overflow .add)
        else .error (overflow .rescale)) ∧
      a.sub b =
        (if fits t then
          if fits (a.value - t) then .ok ⟨a.value - t, a.precision⟩ else .error (overflow .sub)
        else .error (overflow .rescale)) :=
  ⟨truncates_iff_valueAt b _, fits_valueAt hb, rescaled_bind hb .add (a.value + ·) _ _,
    rescaled_bind hb .sub (a.value - ·) _ _⟩

/-- The digits of a negative number are cut off toward zero. -/
theorem add_sub_rescaled_negative :
    (⟨-129, 3⟩ : Decimal).Valid ∧ add ⟨100, 2⟩ ⟨-129, 3⟩ = .ok ⟨88, 2⟩ ∧
      sub ⟨100, 2⟩ ⟨-129, 3⟩ = .ok ⟨112, 2⟩ := by
  have hb : (⟨-129, 3⟩ : Decimal).Valid := ⟨by decide, by decide⟩
  obtain ⟨-, -, hadd, hsub⟩ := @add_sub_rescaled ⟨100, 2⟩ _ hb
  exact ⟨hb, hadd.trans (by decide), hsub.trans (by decide)⟩

/-- A value that does not fit at the precision of the other is refused, though the sum and the
difference fit. -/
theorem add_sub_overflow :
    let b : Decimal := ⟨922337203685477581, 0⟩
    (⟨-10, 1⟩ : Decimal).Valid ∧ (⟨10, 1⟩ : Decimal).Valid ∧ b.Valid ∧
      fits (-10 + b.valueAt 1) = true ∧ add ⟨-10, 1⟩ b = .error (overflow .rescale) ∧
      fits (10 - b.valueAt 1) = true ∧ sub ⟨10, 1⟩ b = .error (overflow .rescale) :=
  ⟨⟨by decide, by decide⟩, ⟨by decide, by decide⟩, ⟨by decide, by decide⟩, by decide, by decide,
    by decide, by decide⟩

/-! ## Taking back -/

section Restoring

variable {c : Decimal}

/-- What a value that is rescaled goes into is a decimal just where both values fit. -/
theorem rescaled_bind_eq_ok_iff (hb : b.Valid) (op : DecimalOp) (f : Int → Int) (p q : Nat) :
    (do
      let t ← b.rescaled p
      let value ← checked op (f t)
      return (⟨value, q⟩ : Decimal)) = .ok c ↔
      fits (b.valueAt p) = true ∧ fits (f (b.valueAt p)) = true ∧ c = ⟨f (b.valueAt p), q⟩ := by
  rw [rescaled_bind hb]
  split
  · next ht =>
    split
    · next hf => simp [ht, hf, eq_comm]
    · next hf => simp [hf]
  · next ht => simp [ht]

theorem add_eq_ok_iff (hb : b.Valid) :
    a.add b = .ok c ↔ fits (b.valueAt a.precision) = true ∧
      fits (a.value + b.valueAt a.precision) = true ∧
      c = ⟨a.value + b.valueAt a.precision, a.precision⟩ :=
  rescaled_bind_eq_ok_iff hb .add (a.value + ·) _ _

theorem sub_eq_ok_iff (hb : b.Valid) :
    a.sub b = .ok c ↔ fits (b.valueAt a.precision) = true ∧
      fits (a.value - b.valueAt a.precision) = true ∧
      c = ⟨a.value - b.valueAt a.precision, a.precision⟩ :=
  rescaled_bind_eq_ok_iff hb .sub (a.value - ·) _ _

/-- Of two decimals that operations can produce, one is the sum with `b` if and only if the other is
the difference. -/
theorem add_eq_ok_iff_sub (ha : a.Valid) (hb : b.Valid) (hc : c.Valid) :
    a.add b = .ok c ↔ c.sub b = .ok a := by
  rw [add_eq_ok_iff hb, sub_eq_ok_iff hb]
  constructor
  · rintro ⟨ht, -, rfl⟩
    have hback : a.value + b.valueAt a.precision - b.valueAt a.precision = a.value := by ring
    exact ⟨ht, by rw [hback]; exact ha.1, by rw [hback]⟩
  · rintro ⟨ht, -, rfl⟩
    have hback : c.value - b.valueAt c.precision + b.valueAt c.precision = c.value := by ring
    exact ⟨ht, by rw [hback]; exact hc.1, by rw [hback]⟩

/-- A decimal that is added is the number cut off at the precision of the sum, and taking it away
again gives the left decimal back, also at the ends of what fits.  So it is the other way round. -/
theorem add_sub_restores (ha : a.Valid) (hb : b.Valid) :
    (∀ c, a.add b = .ok c → c.precision = a.precision ∧ c.sub b = .ok a ∧ c.Valid ∧
      ∃ t, Truncates b.number ⟨t, a.precision⟩ ∧ c.value = a.value + t) ∧
    ∀ c, a.sub b = .ok c → c.precision = a.precision ∧ c.add b = .ok a ∧ c.Valid ∧
      ∃ t, Truncates b.number ⟨t, a.precision⟩ ∧ c.value = a.value - t := by
  have htruncates := truncates_valueAt b a.precision
  constructor
  · intro c h
    obtain ⟨-, hfits, rfl⟩ := (add_eq_ok_iff hb).1 h
    have hc : Valid ⟨a.value + b.valueAt a.precision, a.precision⟩ := ⟨hfits, ha.2⟩
    exact ⟨rfl, (add_eq_ok_iff_sub ha hb hc).1 h, hc, _, htruncates, rfl⟩
  · intro c h
    obtain ⟨-, hfits, rfl⟩ := (sub_eq_ok_iff hb).1 h
    have hc : Valid ⟨a.value - b.valueAt a.precision, a.precision⟩ := ⟨hfits, ha.2⟩
    exact ⟨rfl, (add_eq_ok_iff_sub hc hb ha).2 h, hc, _, htruncates, rfl⟩

/-- A sum at the upper end of what fits, with a digit that is cut off, and a difference at the lower
end. -/
theorem add_sub_restores_ends :
    let left : Decimal := ⟨2 ^ 63 - 2, 2⟩
    let right : Decimal := ⟨19, 3⟩
    let low : Decimal := ⟨-2 ^ 63 + 12, 1⟩
    let finer : Decimal := ⟨1299, 3⟩
    (left.Valid ∧ right.Valid ∧ low.Valid ∧ finer.Valid) ∧
      left.add right = .ok ⟨2 ^ 63 - 1, 2⟩ ∧ sub ⟨2 ^ 63 - 1, 2⟩ right = .ok left ∧
      low.sub finer = .ok ⟨-2 ^ 63, 1⟩ ∧ add ⟨-2 ^ 63, 1⟩ finer = .ok low := by
  intro left right low finer
  have hleft : left.Valid := ⟨by decide, by decide⟩
  have hright : right.Valid := ⟨by decide, by decide⟩
  have hlow : low.Valid := ⟨by decide, by decide⟩
  have hfiner : finer.Valid := ⟨by decide, by decide⟩
  have hsum : left.add right = .ok ⟨2 ^ 63 - 1, 2⟩ := by decide
  have hdifference : low.sub finer = .ok ⟨-2 ^ 63, 1⟩ := by decide
  obtain ⟨-, hsub, -⟩ := (add_sub_restores hleft hright).1 _ hsum
  obtain ⟨-, hadd, -⟩ := (add_sub_restores hlow hfiner).2 _ hdifference
  exact ⟨⟨hleft, hright, hlow, hfiner⟩, hsum, hsub, hdifference, hadd⟩

end Restoring

end MariaClient.Decimal
