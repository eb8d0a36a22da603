import Mathlib.Algebra.Order.Group.Unbundled.Basic
import Mathlib.Order.Compare
import MariaClient.Proofs.Decimal.Product
import MariaClient.Proofs.Decimal.Sum

/-!
# The order of decimals

Two decimals are compared at the higher of their precisions, which shows all of both numbers.  So
they are ordered as the numbers that they stand for (`order_eq_compare`), whatever their precisions,
and the laws of the order are those of the rational numbers.  Cutting fraction digits off may make
two numbers equal but does not turn them around (`order_withPrecision`).  The widened values are
words of 128 bits (`Words.order_eq`).
-/

namespace MariaClient.Decimal

variable {a b d e : Decimal} {p : Nat}

/-! ## Decimals as numbers -/

/-- At a precision that shows all of two numbers their values are ordered as they are. -/
theorem compare_widened (ha : a.precision ≤ p) (hb : b.precision ≤ p) :
    compare (a.widened p) (b.widened p) = compare a.number b.number := by
  have hpow : (0 : ℚ) < 10 ^ p := by positivity
  rw [← cmp_eq_compare, ← cmp_eq_compare]
  calc cmp (a.widened p) (b.widened p)
    _ = cmp (a.widened p : ℚ) (b.widened p : ℚ) := (Int.cast_strictMono.cmp_map_eq _ _).symm
    _ = cmp (a.number * 10 ^ p) (b.number * 10 ^ p) := by
      rw [number_mul_eq_widened ha, number_mul_eq_widened hb]
    _ = cmp a.number b.number := cmp_mul_pos_right hpow _ _

/-- Decimals are ordered as their numbers are. -/
theorem order_eq_compare (a b : Decimal) : a.order b = compare a.number b.number :=
  compare_widened (le_max_left _ _) (le_max_right _ _)

/-- The order tells the sign of the difference. -/
theorem order_eq_sign (a b : Decimal) : a.order b = compare (a.number - b.number) 0 := by
  rw [order_eq_compare, ← cmp_eq_compare, ← cmp_eq_compare, cmp_sub_zero]

theorem isLE_order_iff : (a.order b).isLE = true ↔ a.number ≤ b.number := by
  rw [Ordering.isLE_iff_ne_gt, order_eq_compare, compare_gt_iff_gt, not_lt]

theorem order_eq_eq_iff : a.order b = .eq ↔ a.number = b.number := by
  rw [order_eq_compare, compare_eq_iff_eq]

/-- Decimals are the same if and only if their numbers are. -/
theorem same_iff : a.same b = true ↔ a.number = b.number := by
  rw [same, beq_iff_eq, order_eq_eq_iff]

/-! ## Cutting off -/

/-- A decimal at another precision has its value there, if precision and value can be had. -/
theorem withPrecision_eq_ok_iff (hd : d.Valid) :
    d.withPrecision p = .ok e ↔
      p ≤ maxPrecision ∧ fits (d.valueAt p) = true ∧ e = ⟨d.valueAt p, p⟩ := by
  rw [withPrecision, checkPrecision, rescaled_eq hd]
  by_cases hp : p ≤ maxPrecision
  · have hresult := checked_result .rescale (d.valueAt p) p
    rw [if_pos hp]
    refine (Eq.congr_left hresult).trans ?_
    by_cases hfits : fits (d.valueAt p) = true
    · simp [hp, hfits, eq_comm]
    · simp [hfits]
  · rw [if_neg hp]
    exact ⟨nofun, fun h ↦ absurd h.1 hp⟩

/-- A decimal at another precision is its number cut off there. -/
theorem withPrecision_truncates (ha : a.Valid) (hd : a.withPrecision p = .ok d) :
    d.precision = p ∧ Truncates a.number d := by
  obtain ⟨-, -, rfl⟩ := (withPrecision_eq_ok_iff ha).1 hd
  exact ⟨rfl, truncates_valueAt a p⟩

theorem valueAt_mono (h : a.number ≤ b.number) (p : Nat) : a.valueAt p ≤ b.valueAt p :=
  (truncates_valueAt a p).mono (truncates_valueAt b p) h

/-- At one precision decimals are ordered as their values are. -/
theorem order_of_precision (m n : Int) (p : Nat) : order ⟨m, p⟩ ⟨n, p⟩ = compare m n := by
  simp [order, widened]

/-- At another precision two decimals are ordered as before, unless they are equal there. -/
theorem order_withPrecision (ha : a.Valid) (hb : b.Valid) (hle : (a.order b).isLE = true)
    (hd : a.withPrecision p = .ok d) (he : b.withPrecision p = .ok e) :
    d.order e = a.order b ∨ d.order e = .eq := by
  obtain ⟨-, -, rfl⟩ := (withPrecision_eq_ok_iff ha).1 hd
  obtain ⟨-, -, rfl⟩ := (withPrecision_eq_ok_iff hb).1 he
  rw [order_of_precision]
  have hvalues := valueAt_mono (isLE_order_iff.1 hle) p
  cases horder : a.order b with
  | lt =>
    rcases hvalues.lt_or_eq with hlt | heq
    · exact .inl (compare_lt_iff_lt.2 hlt)
    · exact .inr (compare_eq_iff_eq.2 heq)
  | eq =>
    have hback := valueAt_mono (order_eq_eq_iff.1 horder).ge p
    exact .inr (compare_eq_iff_eq.2 (le_antisymm hvalues hback))
  | gt =>
    rw [horder] at hle
    cases hle

/-! ## On machine words -/

namespace Words

/-- The value of a decimal at a precision that is not lower than its own. -/
def widened (d : Decimal) (p : Nat) : Option Int := do
  guard (d.precision ≤ p)
  let factor ← signed 64 (10 ^ (p - d.precision))
  signed 128 (d.value * factor)

/-- Compares two decimals as numbers. -/
def order (a b : Decimal) : Option Ordering := do
  let p := max a.precision b.precision
  let left ← widened a p
  let right ← widened b p
  return compare left right

/-- A decimal is widened to any precision that decimals can have. -/
theorem widened_eq (hd : d.Valid) (hle : d.precision ≤ p) (hp : p ≤ maxPrecision) :
    widened d p = some (d.widened p) := by
  obtain ⟨hpos, hfactor⟩ := power_bounds ((Nat.sub_le p d.precision).trans hp)
  have hproduct : (d.value * 10 ^ (p - d.precision)).natAbs ≤ 2 ^ 63 * 10 ^ 18 := by
    rw [Int.natAbs_mul]
    exact Nat.mul_le_mul (natAbs_le_of_fits hd.1) (by omega)
  rw [widened, guard, if_pos hle, pure_bind, signed_bind (by omega), signed_eq (by omega),
    Decimal.widened]

/-- No operation overflows on the way to the order. -/
theorem order_eq (ha : a.Valid) (hb : b.Valid) : order a b = some (a.order b) := by
  have hmost : max a.precision b.precision ≤ maxPrecision := max_le ha.2 hb.2
  rw [order, widened_eq ha (le_max_left _ _) hmost, widened_eq hb (le_max_right _ _) hmost]
  rfl

end Words

/-! ## The order -/

/-- Decimals of any precisions are compared exactly: the order is the sign of the difference of
their numbers, and no widened value overflows.  So two decimals are the same if and only if their
numbers are, and the order is total and transitive.  Another precision cuts a number off there, and
two decimals that both can be had at it are ordered as before or equal. -/
theorem order_exact (ha : a.Valid) (hb : b.Valid) :
    a.order b = compare (a.number - b.number) 0 ∧ Words.order a b = some (a.order b) ∧
      (a.same b = true ↔ a.number = b.number) ∧
      ((a.order b).isLE = true ∨ (b.order a).isLE = true) ∧ b.order a = (a.order b).swap ∧
      (∀ c : Decimal, (a.order b).isLE = true → (b.order c).isLE = true →
        (a.order c).isLE = true) ∧
      (∀ (p : Nat) (d : Decimal), a.withPrecision p = .ok d →
        d.precision = p ∧ Truncates a.number d) ∧
      ∀ (p : Nat) (d e : Decimal), (a.order b).isLE = true → a.withPrecision p = .ok d →
        b.withPrecision p = .ok e → d.order e = a.order b ∨ d.order e = .eq := by
  refine ⟨order_eq_sign a b, Words.order_eq ha hb, same_iff, ?_, ?_, ?_,
    fun _ _ ↦ withPrecision_truncates ha, ?_⟩
  · simp only [isLE_order_iff]
    exact le_total _ _
  · rw [order_eq_compare, order_eq_compare, ← cmp_eq_compare, ← cmp_eq_compare, cmp_swap]
  · intro c
    simp only [isLE_order_iff]
    exact le_trans
  · intro p d e hle hd he
    exact order_withPrecision ha hb hle hd he

/-- The lowest whole number and a number with as many fraction digits as there can be, and two
negative numbers that are equal when their last digits are cut off. -/
theorem order_exact_furthest :
    let lowest : Decimal := ⟨-2 ^ 63, 0⟩
    let fine : Decimal := ⟨2 ^ 63 - 1, 18⟩
    let less : Decimal := ⟨-129, 2⟩
    let more : Decimal := ⟨-1207, 3⟩
    (lowest.Valid ∧ fine.Valid ∧ less.Valid ∧ more.Valid) ∧
      Words.order lowest fine = some .lt ∧ lowest.number ≠ fine.number ∧
      less.order more = .lt ∧ less.withPrecision 1 = .ok ⟨-12, 1⟩ ∧
      more.withPrecision 1 = .ok ⟨-12, 1⟩ ∧
      order ⟨-12, 1⟩ ⟨-12, 1⟩ = .eq := by
  intro lowest fine less more
  have hlowest : lowest.Valid := ⟨by decide, by decide⟩
  have hfine : fine.Valid := ⟨by decide, by decide⟩
  have hless : less.Valid := ⟨by decide, by decide⟩
  have hmore : more.Valid := ⟨by decide, by decide⟩
  obtain ⟨-, hwords, hsame, -⟩ := order_exact hlowest hfine
  obtain ⟨-, -, -, -, -, -, -, hcut⟩ := order_exact hless hmore
  have hd : less.withPrecision 1 = .ok ⟨-12, 1⟩ := by decide
  have he : more.withPrecision 1 = .ok ⟨-12, 1⟩ := by decide
  exact ⟨⟨hlowest, hfine, hless, hmore⟩, hwords.trans (by decide), mt hsame.2 (by decide),
    by decide, hd, he, (hcut 1 _ _ (by decide) hd he).resolve_left (by decide)⟩

end MariaClient.Decimal
