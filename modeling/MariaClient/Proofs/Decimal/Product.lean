import MariaClient.Proofs.Decimal.Number
import MariaClient.Proofs.Decimal.Printed

/-!
# Products and quotients of decimals

A quotient of whole numbers is rounded to the nearest one, a half away from zero
(`divRound_spec`).  So the product and the quotient of two decimals are the exact ones rounded once,
at the precision of the left operand, and fail only where the rounded value does not fit
(`mul_div_rounded`).  Done on words of 128 bits no operation overflows on the way
(`Words.divRound_eq`).
-/

namespace MariaClient.Decimal

open Text

variable {a b : Decimal} {n d : Int}

/-! ## Rounded quotients -/

/-- The magnitude of a rounded quotient, whatever its sign. -/
theorem roundHalfAway_spec (num : Nat) {den : Nat} (hden : 0 < den) :
    ∃ q : Nat, (∀ negative, roundHalfAway negative num den = if negative then -(q : Int) else q) ∧
      2 * (q * den) ≤ 2 * num + den ∧ 2 * num < 2 * (q * den) + den := by
  have hsplit := Nat.div_add_mod' num den
  have hrest := Nat.mod_lt num hden
  by_cases hhalf : den ≤ 2 * (num % den)
  · have hnext : (num / den + 1) * den = num / den * den + den := Nat.succ_mul _ _
    refine ⟨num / den + 1, fun negative ↦ ?_, ?_, ?_⟩
    · rw [roundHalfAway, if_pos hhalf]
    · omega
    · omega
  · refine ⟨num / den, fun negative ↦ ?_, ?_, ?_⟩
    · rw [roundHalfAway, if_neg hhalf]
    · omega
    · omega

/-- The rounded quotient is at most one half away, and if it is just that, further from zero. -/
theorem divRound_spec (n : Int) (hd : d ≠ 0) :
    2 * |n - divRound n d * d| ≤ |d| ∧
      (2 * |n - divRound n d * d| = |d| → |n| < |divRound n d * d|) := by
  obtain ⟨q, hq, hlow, hhigh⟩ := roundHalfAway_spec n.natAbs (Int.natAbs_pos.2 hd)
  have hproduct : divRound n d * d =
      if n < 0 then -((q * d.natAbs : Nat) : Int) else (q * d.natAbs : Nat) := by
    rw [divRound, hq, Int.natCast_mul]
    rcases lt_or_ge n 0 with hn | hn
    · rcases lt_or_ge d 0 with hneg | hpos
      · simp [hn, hneg, abs_of_neg hneg]
      · simp [hn, not_lt.2 hpos, abs_of_nonneg hpos]
    · rcases lt_or_ge d 0 with hneg | hpos
      · simp [not_lt.2 hn, hneg, abs_of_neg hneg]
      · simp [not_lt.2 hn, not_lt.2 hpos, abs_of_nonneg hpos]
  -- The sign of the quotient does not matter, only the distance of the two magnitudes.
  rw [hproduct]
  generalize q * d.natAbs = k at hlow hhigh
  simp only [Int.abs_eq_natAbs]
  split
  · omega
  · omega

theorem divRound_near (n : Int) (hd : d ≠ 0) :
    |(n : ℚ) / d - divRound n d| ≤ 1 / 2 ∧
      (|(n : ℚ) / d - divRound n d| = 1 / 2 → |(n : ℚ) / d| < |(divRound n d : ℚ)|) := by
  have hdq : (d : ℚ) ≠ 0 := by exact_mod_cast hd
  have hsize : (0 : ℚ) < |(d : ℚ)| := abs_pos.2 hdq
  obtain ⟨hnear, haway⟩ := divRound_spec n hd
  have hdistance :
      |(n : ℚ) / d - divRound n d| = ((|n - divRound n d * d| : Int) : ℚ) / |(d : ℚ)| := by
    rw [Int.cast_abs, ← abs_div]
    push_cast
    congr 1
    field_simp
  rw [hdistance, div_le_iff₀ hsize, div_eq_iff hsize.ne', abs_div, div_lt_iff₀ hsize, ← abs_mul]
  constructor
  · have hle : (2 : ℚ) * (|n - divRound n d * d| : Int) ≤ |(d : ℚ)| := by exact_mod_cast hnear
    linarith only [hle]
  · intro htie
    have heq : (2 : ℚ) * (|n - divRound n d * d| : Int) = |(d : ℚ)| := by linarith only [htie]
    exact_mod_cast haway (by exact_mod_cast heq)

/-- A number is rounded to the decimal of the rounded quotient, and to no other. -/
theorem rounds_iff_divRound {x : ℚ} {p : ℕ} (hd : d ≠ 0) (hx : x * 10 ^ p = n / d) (m : Int) :
    Rounds x ⟨m, p⟩ ↔ m = divRound n d := by
  have hrounds : Rounds x ⟨divRound n d, p⟩ := by
    obtain ⟨hnear, haway⟩ := divRound_near n hd
    rw [← hx] at hnear haway
    exact rounds_of_half hnear haway
  constructor
  · intro h
    exact h.unique hrounds
  · rintro rfl
    exact hrounds

/-! ## Results -/

theorem mul_result (a b : Decimal) :
    a.mul b =
      if fits (divRound (a.value * b.value) b.factor) then
        .ok ⟨divRound (a.value * b.value) b.factor, a.precision⟩
      else .error (overflow .mul) :=
  checked_result .mul _ _

theorem div_result (a : Decimal) (hb : b.value ≠ 0) :
    a.div b =
      if fits (divRound (a.value * b.factor) b.value) then
        .ok ⟨divRound (a.value * b.factor) b.value, a.precision⟩
      else .error (overflow .div) := by
  rw [div, if_neg hb]
  exact checked_result .div _ _

theorem natAbs_le_of_fits (h : fits n = true) : n.natAbs ≤ 2 ^ 63 := by
  rw [fits_iff] at h
  omega

/-! ## On machine words -/

namespace Words

/-- A signed word of so many bits, and nothing if the number is too wide. -/
def signed (bits : Nat) (n : Int) : Option Int :=
  if fitsSigned bits n then some n else none

/-- The integer nearest to `n / d`, a half away from zero. -/
def divRound (n d : Int) : Option Int := do
  let quotient ← signed 128 (n.tdiv d)
  let rest ← signed 128 (n.tmod d)
  let size ← signed 128 rest.natAbs
  let doubled ← signed 128 (2 * size)
  let divisor ← signed 128 d.natAbs
  if divisor ≤ doubled then
    if decide (n < 0) = decide (d < 0) then signed 128 (quotient + 1) else signed 128 (quotient - 1)
  else return quotient

/-- The decimal of a value that has to fit. -/
def fitted (op : DecimalOp) (p : Nat) (n : Int) : Except Error Decimal :=
  match signed 64 n with
  | none => .error (overflow op)
  | some value => .ok ⟨value, p⟩

/-- The product, rounded at the precision of the left decimal. -/
def mul (a b : Decimal) : Option (Except Error Decimal) := do
  let factor ← signed 64 b.factor
  let product ← signed 128 (a.value * b.value)
  return fitted .mul a.precision (← divRound product factor)

/-- The quotient, rounded at the precision of the left decimal. -/
def div (a b : Decimal) : Option (Except Error Decimal) := do
  if b.value = 0 then return .error (.decimal .divisionByZero)
  let factor ← signed 64 b.factor
  let dividend ← signed 128 (a.value * factor)
  return fitted .div a.precision (← divRound dividend b.value)

theorem signed_eq {bits : Nat} {n : Int} (h : n.natAbs < 2 ^ (bits - 1)) :
    signed bits n = some n := by
  have hfits : fitsSigned bits n = true := by
    have hpow : ((2 ^ (bits - 1) : Nat) : Int) = 2 ^ (bits - 1) := by push_cast; rfl
    rw [fitsSigned_iff, ← hpow]
    omega
  rw [signed, if_pos hfits]

theorem signed_bind {α : Type} {bits : Nat} {n : Int} {f : Int → Option α}
    (h : n.natAbs < 2 ^ (bits - 1)) : (signed bits n >>= f) = f n := by
  rw [signed_eq h]
  rfl

theorem tdiv_eq (n d : Int) :
    n.tdiv d = if decide (n < 0) != decide (d < 0) then -((n.natAbs / d.natAbs : Nat) : Int)
      else (n.natAbs / d.natAbs : Nat) := by
  have hnonneg {z : Int} (hz : 0 ≤ z) : ∃ k : Nat, z = k := ⟨z.natAbs, by omega⟩
  have hneg {z : Int} (hz : z < 0) : ∃ k : Nat, z = -k := ⟨z.natAbs, by omega⟩
  rcases lt_or_ge n 0 with hn | hn
  · obtain ⟨k, rfl⟩ := hneg hn
    rcases lt_or_ge d 0 with hd | hd
    · obtain ⟨l, rfl⟩ := hneg hd
      rw [decide_eq_true hn, decide_eq_true hd, Int.natAbs_neg, Int.natAbs_neg, Int.neg_tdiv,
        Int.tdiv_neg, neg_neg]
      rfl
    · obtain ⟨l, rfl⟩ := hnonneg hd
      rw [decide_eq_true hn, decide_eq_false (not_lt.2 hd), Int.natAbs_neg, Int.neg_tdiv]
      rfl
  · obtain ⟨k, rfl⟩ := hnonneg hn
    rcases lt_or_ge d 0 with hd | hd
    · obtain ⟨l, rfl⟩ := hneg hd
      rw [decide_eq_false (not_lt.2 hn), decide_eq_true hd, Int.natAbs_neg, Int.tdiv_neg]
      rfl
    · obtain ⟨l, rfl⟩ := hnonneg hd
      rw [decide_eq_false (not_lt.2 hn), decide_eq_false (not_lt.2 hd)]
      rfl

/-- No operation overflows on the way to a rounded quotient. -/
theorem divRound_eq (hd : d ≠ 0) (hn : n.natAbs ≤ 2 ^ 126) (hsize : d.natAbs ≤ 2 ^ 63) :
    divRound n d = some (Decimal.divRound n d) := by
  have hquotient := Int.natAbs_tdiv_le_natAbs n d
  -- The rest has the sign of `n`, but only its magnitude decides how the quotient is rounded.
  have hrest : (n.tmod d).natAbs = n.natAbs % d.natAbs := Int.natAbs_tmod n d
  have hsmall := Nat.mod_lt n.natAbs (Int.natAbs_pos.2 hd)
  have hhalf : (d.natAbs : Int) ≤ 2 * (n.natAbs % d.natAbs : Nat) ↔
      d.natAbs ≤ 2 * (n.natAbs % d.natAbs) := by
    omega
  rw [divRound, signed_bind (by omega), signed_bind (by omega), signed_bind (by omega),
    signed_bind (by omega), signed_bind (by omega), hrest, Decimal.divRound, roundHalfAway,
    signed_eq (by omega), signed_eq (by omega), tdiv_eq]
  simp only [hhalf]
  by_cases hsigns : decide (n < 0) = decide (d < 0)
  · rw [if_pos hsigns, hsigns, bne_self_eq_false]
    split
    · rfl
    · rfl
  · rw [if_neg hsigns, bne_iff_ne.2 hsigns, if_pos rfl, if_pos rfl]
    split
    · rw [Nat.cast_succ, neg_add]
      rfl
    · rfl

theorem fitted_eq (op : DecimalOp) (p : Nat) (n : Int) :
    fitted op p n = if fits n then .ok ⟨n, p⟩ else .error (overflow op) := by
  rw [fitted, signed, fits]
  cases fitsSigned 64 n with
  | false => rfl
  | true => rfl

theorem power_bounds {p : Nat} (h : p ≤ maxPrecision) :
    (0 : Int) < 10 ^ p ∧ (10 : Int) ^ p ≤ 10 ^ 18 :=
  ⟨pow_pos (by norm_num) _, pow_le_pow_right₀ (by norm_num) h⟩

theorem factor_bounds (hb : b.Valid) : 0 < b.factor ∧ b.factor ≤ 10 ^ 18 :=
  power_bounds hb.2

theorem mul_eq (ha : a.Valid) (hb : b.Valid) : mul a b = some (a.mul b) := by
  obtain ⟨hpos, hfactor⟩ := factor_bounds hb
  have hproduct : (a.value * b.value).natAbs ≤ 2 ^ 63 * 2 ^ 63 := by
    rw [Int.natAbs_mul]
    exact Nat.mul_le_mul (natAbs_le_of_fits ha.1) (natAbs_le_of_fits hb.1)
  rw [mul, signed_bind (by omega), signed_bind (by omega), divRound_eq (by omega) (by omega)
    (by omega), mul_result, ← fitted_eq]
  rfl

theorem div_eq (ha : a.Valid) (hb : b.Valid) : div a b = some (a.div b) := by
  obtain ⟨hpos, hfactor⟩ := factor_bounds hb
  have hdivisor := natAbs_le_of_fits hb.1
  have hdividend : (a.value * b.factor).natAbs ≤ 2 ^ 63 * 10 ^ 18 := by
    rw [Int.natAbs_mul]
    exact Nat.mul_le_mul (natAbs_le_of_fits ha.1) (by omega)
  rw [div]
  by_cases hzero : b.value = 0
  · rw [if_pos hzero, Decimal.div, if_pos hzero]
    rfl
  · rw [if_neg hzero, signed_bind (by omega), signed_bind (by omega),
      divRound_eq hzero (by omega) hdivisor, div_result a hzero, ← fitted_eq]
    rfl

end Words

/-! ## Products and quotients -/

theorem number_mul_eq (a b : Decimal) :
    a.number * b.number * 10 ^ a.precision = ((a.value * b.value : Int) : ℚ) / b.factor := by
  rw [number, number, factor]
  push_cast
  field_simp

theorem number_div_eq (a b : Decimal) :
    a.number / b.number * 10 ^ a.precision = ((a.value * b.factor : Int) : ℚ) / b.value := by
  rw [number, number, factor]
  push_cast
  field_simp

/-- The product and the quotient are the exact ones, rounded once to the nearest decimal of the left
precision and away from zero where two are as near.  They fail only where that decimal does not fit
or the divisor is zero, and no operation on machine words overflows. -/
theorem mul_div_rounded (ha : a.Valid) (hb : b.Valid) :
    (∃ n, (∀ m, Rounds (a.number * b.number) ⟨m, a.precision⟩ ↔ m = n) ∧
      a.mul b = if fits n then .ok ⟨n, a.precision⟩ else .error (overflow .mul)) ∧
      (b.value = 0 → a.div b = .error (.decimal .divisionByZero)) ∧
      (b.value ≠ 0 →
        ∃ n, (∀ m, Rounds (a.number / b.number) ⟨m, a.precision⟩ ↔ m = n) ∧
          a.div b = if fits n then .ok ⟨n, a.precision⟩ else .error (overflow .div)) ∧
      Words.mul a b = some (a.mul b) ∧ Words.div a b = some (a.div b) := by
  have hfactor : b.factor ≠ 0 := (Words.factor_bounds hb).1.ne'
  refine ⟨?_, ?_, ?_, Words.mul_eq ha hb, Words.div_eq ha hb⟩
  · exact ⟨_, rounds_iff_divRound hfactor (number_mul_eq a b), mul_result a b⟩
  · intro hzero
    rw [div, if_pos hzero]
    rfl
  · intro hzero
    exact ⟨_, rounds_iff_divRound hzero (number_div_eq a b), div_result a hzero⟩

/-- A product of opposite signs just between two decimals is rounded away from zero. -/
theorem mul_div_rounded_tie :
    (⟨-25, 1⟩ : Decimal).Valid ∧ (⟨5, 1⟩ : Decimal).Valid ∧ mul ⟨-25, 1⟩ ⟨5, 1⟩ = .ok ⟨-13, 1⟩ ∧
      Rounds (number ⟨-25, 1⟩ * number ⟨5, 1⟩) ⟨-13, 1⟩ ∧
      Words.div ⟨-2 ^ 63, 0⟩ ⟨-1, 0⟩ = some (.error (overflow .div)) := by
  have ha : (⟨-25, 1⟩ : Decimal).Valid := ⟨by decide, by decide⟩
  have hb : (⟨5, 1⟩ : Decimal).Valid := ⟨by decide, by decide⟩
  have hlowest : (⟨-2 ^ 63, 0⟩ : Decimal).Valid := ⟨by decide, by decide⟩
  have hone : (⟨-1, 0⟩ : Decimal).Valid := ⟨by decide, by decide⟩
  obtain ⟨⟨n, hrounds, hmul⟩, -⟩ := mul_div_rounded ha hb
  obtain ⟨-, -, -, -, hwords⟩ := mul_div_rounded hlowest hone
  have hresult : mul ⟨-25, 1⟩ ⟨5, 1⟩ = .ok ⟨-13, 1⟩ := by decide
  have hn : -13 = n := by
    rw [hresult] at hmul
    split at hmul
    · cases hmul
      rfl
    · cases hmul
  exact ⟨ha, hb, hresult, (hrounds _).2 hn, hwords.trans (by decide)⟩

end MariaClient.Decimal
