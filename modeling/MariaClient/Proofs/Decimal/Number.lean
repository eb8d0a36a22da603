import Mathlib.Algebra.Order.Field.Basic
import Mathlib.Data.Rat.Floor
import Mathlib.Tactic.FieldSimp
import Mathlib.Tactic.Linarith
import Mathlib.Tactic.Ring
import MariaClient.Decimal

/-!
# Decimals as numbers

The rational number that a decimal stands for.  Among the decimals of one precision a number is
rounded to the nearest, and to the one further from zero where two are as near (`Rounds`); it is cut
off at the last that it passes on the way from zero (`Truncates`).  Either is one decimal only
(`Rounds.unique`, `Truncates.unique`), and cutting off keeps the order of numbers
(`Truncates.mono`).
-/

namespace MariaClient.Decimal

/-- The number that a decimal stands for. -/
def number (d : Decimal) : ℚ :=
  d.value / 10 ^ d.precision

/-- Of the decimals of its precision none is nearer to the number, and none that is as near is
further from zero. -/
structure Rounds (x : ℚ) (d : Decimal) : Prop where
  nearest : ∀ m : ℤ, |x - d.number| ≤ |x - number ⟨m, d.precision⟩|
  away : ∀ m : ℤ, |x - number ⟨m, d.precision⟩| = |x - d.number| → |m| ≤ |d.value|

/-- The decimal does not pass the number on the way from zero, but the next one does. -/
structure Truncates (x : ℚ) (d : Decimal) : Prop where
  within : |d.number| ≤ |x|
  close : |x - d.number| < 1 / 10 ^ d.precision

variable {x : ℚ} {p : ℕ} {n m : ℤ}

/-- The distance of a number from a decimal, counted in units of the last place. -/
theorem abs_sub_number (x : ℚ) (m : ℤ) (p : ℕ) :
    |x - number ⟨m, p⟩| = |x * 10 ^ p - m| / 10 ^ p := by
  have hpow : (0 : ℚ) < 10 ^ p := pow_pos (by norm_num) p
  rw [← abs_of_pos hpow, ← abs_div, abs_of_pos hpow, number]
  congr 1
  field_simp

/-! ## Rounding -/

theorem rounds_iff :
    Rounds x ⟨n, p⟩ ↔ (∀ m : ℤ, |x * 10 ^ p - n| ≤ |x * 10 ^ p - m|) ∧
      ∀ m : ℤ, |x * 10 ^ p - m| = |x * 10 ^ p - n| → |m| ≤ |n| := by
  have hpow : (0 : ℚ) < 10 ^ p := pow_pos (by norm_num) p
  have hle (m k : ℤ) : |x - number ⟨m, p⟩| ≤ |x - number ⟨k, p⟩| ↔
      |x * 10 ^ p - m| ≤ |x * 10 ^ p - k| := by
    rw [abs_sub_number, abs_sub_number, div_le_div_iff_of_pos_right hpow]
  have heq (m k : ℤ) : |x - number ⟨m, p⟩| = |x - number ⟨k, p⟩| ↔
      |x * 10 ^ p - m| = |x * 10 ^ p - k| := by
    rw [abs_sub_number, abs_sub_number, div_left_inj' hpow.ne']
  constructor
  · rintro ⟨hnearest, haway⟩
    exact ⟨fun m ↦ (hle n m).1 (hnearest m), fun m h ↦ haway m ((heq m n).2 h)⟩
  · rintro ⟨hnearest, haway⟩
    exact ⟨fun m ↦ (hle n m).2 (hnearest m), fun m h ↦ haway m ((heq m n).1 h)⟩

/-- Of the two whole numbers beside a half, the one past it on the way from zero is the further. -/
theorem abs_le_of_mirrored {y : ℚ} (hmirror : (m : ℚ) + n = 2 * y) (hhalf : |y - n| = 1 / 2)
    (haway : |y| < |(n : ℚ)|) : |m| ≤ |n| := by
  have hsum : |((m + n : ℤ) : ℚ)| < 2 * |(n : ℚ)| := by
    rw [Int.cast_add, hmirror, abs_mul, abs_two]
    linarith only [haway]
  have hdiff : |((m - n : ℤ) : ℚ)| = 1 := by
    have htwice : (m : ℚ) - n = 2 * (y - n) := by linarith only [hmirror]
    rw [Int.cast_sub, htwice, abs_mul, abs_two, hhalf]
    norm_num
  have hsum' : |m + n| < 2 * |n| := by exact_mod_cast hsum
  have hdiff' : |m - n| = 1 := by exact_mod_cast hdiff
  simp only [Int.abs_eq_natAbs] at hsum' hdiff' ⊢
  omega

/-- A decimal at most half a unit of the last place away, and further from zero than the number if
it is just half a unit. -/
theorem rounds_of_half (hnear : |x * 10 ^ p - n| ≤ 1 / 2)
    (haway : |x * 10 ^ p - n| = 1 / 2 → |x * 10 ^ p| < |(n : ℚ)|) : Rounds x ⟨n, p⟩ := by
  rw [rounds_iff]
  generalize x * 10 ^ p = y at hnear haway ⊢
  -- Another whole number is a unit away from `n`, so at least half a unit away from `y`.
  have hunit {m : ℤ} (hne : m ≠ n) : 1 ≤ |y - n| + |y - m| := by
    have hint : 1 ≤ |m - n| := Int.one_le_abs (sub_ne_zero.2 hne)
    calc (1 : ℚ)
      _ ≤ |(m : ℚ) - n| := by exact_mod_cast hint
      _ = |y - n - (y - m)| := by ring_nf
      _ ≤ |y - n| + |y - m| := abs_sub _ _
  constructor
  · intro m
    rcases eq_or_ne m n with rfl | hne
    · exact le_rfl
    · linarith [hunit hne]
  · intro m htie
    rcases eq_or_ne m n with rfl | hne
    · exact le_rfl
    · have hhalf : |y - n| = 1 / 2 := by linarith [hnear, hunit hne]
      have hmirror : (m : ℚ) + n = 2 * y := by
        rcases abs_eq_abs.1 htie with hsame | hother
        · exact absurd (Int.cast_injective (sub_right_injective hsame)) hne
        · linarith only [hother]
      exact abs_le_of_mirrored hmirror hhalf (haway hhalf)

/-- A number is rounded to one decimal only. -/
theorem Rounds.unique (h : Rounds x ⟨n, p⟩) (h' : Rounds x ⟨m, p⟩) : n = m := by
  rw [rounds_iff] at h h'
  generalize x * 10 ^ p = y at h h'
  have hdistance : |y - n| = |y - m| := le_antisymm (h.1 m) (h'.1 n)
  have hsize : |n| = |m| := le_antisymm (h'.2 n hdistance) (h.2 m hdistance.symm)
  rcases abs_eq_abs.1 hsize with heq | hneg
  · exact heq
  · rcases abs_eq_abs.1 hdistance with hsame | hother
    · exact Int.cast_injective (sub_right_injective hsame)
    · -- The number lies halfway between a decimal and its negative, so both of them are zero.
      have hcast : (n : ℚ) = -m := by exact_mod_cast hneg
      have hzero : y = 0 := by linarith only [hother, hcast]
      have hnone := h.1 0
      rw [hzero, Int.cast_zero, sub_zero, abs_zero, zero_sub, abs_neg, abs_nonpos_iff] at hnone
      have hn : n = 0 := by exact_mod_cast hnone
      omega

/-! ## Cutting off -/

theorem truncates_iff :
    Truncates x ⟨n, p⟩ ↔ |(n : ℚ)| ≤ |x * 10 ^ p| ∧ |x * 10 ^ p - n| < 1 := by
  have hpow : (0 : ℚ) < 10 ^ p := pow_pos (by norm_num) p
  have hwithin : |number ⟨n, p⟩| ≤ |x| ↔ |(n : ℚ)| ≤ |x * 10 ^ p| := by
    rw [number, abs_div, abs_mul, abs_of_pos hpow, div_le_iff₀ hpow]
  have hclose : |x - number ⟨n, p⟩| < 1 / 10 ^ p ↔ |x * 10 ^ p - n| < 1 := by
    rw [abs_sub_number, div_lt_div_iff_of_pos_right hpow]
  exact ⟨fun h ↦ ⟨hwithin.1 h.within, hclose.1 h.close⟩,
    fun h ↦ ⟨hwithin.2 h.1, hclose.2 h.2⟩⟩

theorem Truncates.eq_floor (h : Truncates x ⟨n, p⟩) (hx : 0 ≤ x * 10 ^ p) :
    ⌊x * 10 ^ p⌋ = n := by
  obtain ⟨hwithin, hclose⟩ := truncates_iff.1 h
  rw [abs_of_nonneg hx] at hwithin
  exact Int.floor_eq_iff.2 ⟨(le_abs_self _).trans hwithin, by linarith [(abs_lt.1 hclose).2]⟩

theorem Truncates.eq_ceil (h : Truncates x ⟨n, p⟩) (hx : x * 10 ^ p ≤ 0) :
    ⌈x * 10 ^ p⌉ = n := by
  obtain ⟨hwithin, hclose⟩ := truncates_iff.1 h
  rw [abs_of_nonpos hx] at hwithin
  exact Int.ceil_eq_iff.2
    ⟨by linarith [(abs_lt.1 hclose).1], by linarith [neg_abs_le (n : ℚ)]⟩

/-- A greater number is not cut off at a smaller decimal. -/
theorem Truncates.mono {y : ℚ} (h : Truncates x ⟨n, p⟩) (h' : Truncates y ⟨m, p⟩) (hle : x ≤ y) :
    n ≤ m := by
  have hscaled : x * 10 ^ p ≤ y * 10 ^ p := mul_le_mul_of_nonneg_right hle (by positivity)
  rcases le_total 0 (x * 10 ^ p) with hx | hx
  · rw [← h.eq_floor hx, ← h'.eq_floor (hx.trans hscaled)]
    exact Int.floor_mono hscaled
  · rw [← h.eq_ceil hx]
    rcases le_total 0 (y * 10 ^ p) with hy | hy
    · calc ⌈x * 10 ^ p⌉
        _ ≤ 0 := Int.ceil_nonpos.2 hx
        _ ≤ ⌊y * 10 ^ p⌋ := Int.floor_nonneg.2 hy
        _ = m := h'.eq_floor hy
    · rw [← h'.eq_ceil hy]
      exact Int.ceil_mono hscaled

/-- A number is cut off at one decimal only. -/
theorem Truncates.unique (h : Truncates x ⟨n, p⟩) (h' : Truncates x ⟨m, p⟩) : n = m :=
  le_antisymm (h.mono h' le_rfl) (h'.mono h le_rfl)

end MariaClient.Decimal
