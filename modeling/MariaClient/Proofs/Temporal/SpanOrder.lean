import MariaClient.Temporal.Span

/-!
# The order of spans

Spans are ordered by their signs and then by their parts, but for the two zeros, which are equal
whatever their signs.  The zero with a sign stays before every other span, and the one without a
sign stays behind every other span with a sign.  So a span with a sign that is not zero lies between
two spans that are equal.  `Span.order_laws` says that the laws of an order fail there and nowhere
else.
-/

namespace MariaClient.Temporal.Span

variable {a b c s t z : Span}

/-! ## The order of parts -/

theorem compareParts_eq (as bs : List Nat) :
    compareParts as bs = List.compareLex compare as bs := by
  induction as generalizing bs with
  | nil =>
    cases bs with
    | nil => rfl
    | cons b bs => rfl
  | cons a as ih =>
    cases bs with
    | nil => rfl
    | cons b bs => rw [compareParts, List.compareLex_cons_cons, ih]

instance : Std.TransCmp compareParts := by
  rw [show compareParts = List.compareLex compare from
    funext fun as ↦ funext fun bs ↦ compareParts_eq as bs]
  infer_instance

instance : Std.LawfulEqCmp compareParts := by
  rw [show compareParts = List.compareLex compare from
    funext fun as ↦ funext fun bs ↦ compareParts_eq as bs]
  infer_instance

/-- No parts come before as many zeros. -/
theorem compareParts_zeros (as : List Nat) :
    (compareParts (List.replicate as.length 0) as).isLE = true := by
  induction as with
  | nil => rfl
  | cons a as ih =>
    rw [List.length_cons, List.replicate_succ, compareParts]
    cases a with
    | zero => exact ih
    | succ a => rw [Nat.compare_eq_lt.2 a.succ_pos]; rfl

/-! ## Zeros and other spans -/

/-- The sign and the parts of a span, in the order in which they count. -/
def rank (s : Span) : List Nat :=
  (if s.negative then 0 else 1) :: s.parts

theorem eq_of_rank (h : s.rank = t.rank) : s = t := by
  obtain ⟨negative, days, hours, minutes, seconds, milliseconds⟩ := s
  obtain ⟨negative', days', hours', minutes', seconds', milliseconds'⟩ := t
  cases negative <;> cases negative' <;> simp_all [rank, parts]

theorem isZero_iff : s.isZero = true ↔ s.parts = List.replicate 5 0 := by
  simp [isZero, parts, and_assoc]

theorem order_of_zeros (hs : s.isZero = true) (ht : t.isZero = true) : s.order t = .eq := by
  rw [order, hs, ht]
  rfl

/-- Two spans that are not both zero are ordered by their ranks. -/
theorem order_of_not_zeros (h : (s.isZero && t.isZero) = false) :
    s.order t = compareParts s.rank t.rank := by
  rw [order, if_neg (by rw [h]; exact Bool.false_ne_true), rank, rank, compareParts]
  cases s.negative <;> cases t.negative <;> rfl

theorem order_swap (s t : Span) : t.order s = (s.order t).swap := by
  cases h : s.isZero && t.isZero with
  | true =>
    obtain ⟨hs, ht⟩ := Bool.and_eq_true_iff.1 h
    rw [order_of_zeros hs ht, order_of_zeros ht hs]
    rfl
  | false =>
    rw [order_of_not_zeros h, order_of_not_zeros (by rw [Bool.and_comm, h])]
    exact Std.OrientedCmp.eq_swap

/-- A zero comes before a span that is not zero, unless only the span has a sign. -/
theorem order_zero (hz : z.isZero = true) (hs : s.isZero = false) :
    z.order s = if !z.negative && s.negative then .gt else .lt := by
  have hparts : compareParts z.parts s.parts = .lt := by
    have hle : (compareParts z.parts s.parts).isLE = true := by
      rw [isZero_iff.1 hz]
      exact compareParts_zeros s.parts
    refine (Ordering.isLE_iff_eq_lt_or_eq_eq.1 hle).resolve_right fun heq ↦ ?_
    have hsame := Std.LawfulEqCmp.compare_eq_iff_eq.1 heq
    rw [isZero_iff.2 (hsame ▸ isZero_iff.1 hz)] at hs
    cases hs
  rw [order_of_not_zeros (by rw [hs, Bool.and_false]), rank, rank, compareParts, hparts]
  cases z.negative <;> cases s.negative <;> rfl

/-- Spans are the same if they do not differ or are both zero. -/
theorem order_eq_iff : s.order t = .eq ↔ s = t ∨ s.isZero = true ∧ t.isZero = true := by
  cases h : s.isZero && t.isZero with
  | true =>
    have hzeros := Bool.and_eq_true_iff.1 h
    exact iff_of_true (order_of_zeros hzeros.1 hzeros.2) (.inr hzeros)
  | false =>
    rw [order_of_not_zeros h, Std.LawfulEqCmp.compare_eq_iff_eq, ← Bool.and_eq_true_iff, h,
      or_iff_left Bool.false_ne_true]
    exact ⟨eq_of_rank, congrArg rank⟩

/-! ## The laws of an order -/

/-- A span lies between the two zeros: it has a sign and is not zero. -/
structure SplitsZeros (s minus plus : Span) : Prop where
  isZero : s.isZero = false
  negative : s.negative = true
  minus_isZero : minus.isZero = true
  minus_negative : minus.negative = true
  plus_isZero : plus.isZero = true
  plus_negative : plus.negative = false

theorem SplitsZeros.order_minus (h : s.SplitsZeros a b) : a.order s = .lt := by
  rw [order_zero h.minus_isZero h.isZero, h.minus_negative]
  rfl

theorem SplitsZeros.order_plus (h : s.SplitsZeros a b) : b.order s = .gt := by
  rw [order_zero h.plus_isZero h.isZero, h.plus_negative, h.negative]
  rfl

theorem SplitsZeros.order_zeros (h : s.SplitsZeros a b) : b.order a = .eq :=
  order_of_zeros h.plus_isZero h.minus_isZero

/-- Zeros have the same place among the other spans, unless one of these lies between them. -/
theorem order_zeros_congr (ha : a.isZero = true) (hb : b.isZero = true)
    (hab : ¬ c.SplitsZeros a b) (hba : ¬ c.SplitsZeros b a) : a.order c = b.order c := by
  cases hc : c.isZero with
  | true => rw [order_of_zeros ha hc, order_of_zeros hb hc]
  | false =>
    rw [order_zero ha hc, order_zero hb hc]
    cases hcn : c.negative with
    | false => rw [Bool.and_false, Bool.and_false]
    | true =>
      cases han : a.negative with
      | false =>
        cases hbn : b.negative with
        | false => rfl
        | true => exact absurd ⟨hc, hcn, hb, hbn, ha, han⟩ hba
      | true =>
        cases hbn : b.negative with
        | false => exact absurd ⟨hc, hcn, ha, han, hb, hbn⟩ hab
        | true => rfl

/-- Spans that are the same may stand for one another, unless they are zeros between which the third
span lies. -/
theorem order_congr_iff :
    (a.same b = true → a.order c = b.order c) ↔ ¬ c.SplitsZeros a b ∧ ¬ c.SplitsZeros b a := by
  constructor
  · intro h
    refine ⟨fun hsplit ↦ ?_, fun hsplit ↦ ?_⟩
    · have hsame := h (beq_iff_eq.2 (order_of_zeros hsplit.minus_isZero hsplit.plus_isZero))
      rw [hsplit.order_minus, hsplit.order_plus] at hsame
      cases hsame
    · have hsame := h (beq_iff_eq.2 (order_of_zeros hsplit.plus_isZero hsplit.minus_isZero))
      rw [hsplit.order_minus, hsplit.order_plus] at hsame
      cases hsame
  · rintro ⟨hab, hba⟩ hsame
    rcases order_eq_iff.1 (beq_iff_eq.1 hsame) with rfl | ⟨ha, hb⟩
    · rfl
    · exact order_zeros_congr ha hb hab hba

theorem isLE_trans (hab : (a.order b).isLE = true) (hbc : (b.order c).isLE = true)
    (hc : ¬ c.SplitsZeros b a) (ha : ¬ a.SplitsZeros c b) : (a.order c).isLE = true := by
  by_cases hzab : (a.isZero && b.isZero) = true
  · obtain ⟨haz, hbz⟩ := Bool.and_eq_true_iff.1 hzab
    by_cases hsplit : c.SplitsZeros a b
    · rw [hsplit.order_minus]
      rfl
    · rwa [order_zeros_congr haz hbz hsplit hc]
  by_cases hzbc : (b.isZero && c.isZero) = true
  · obtain ⟨hbz, hcz⟩ := Bool.and_eq_true_iff.1 hzbc
    by_cases hsplit : a.SplitsZeros b c
    · rw [order_swap c a, hsplit.order_plus]
      rfl
    · rwa [order_swap c a, ← order_zeros_congr hbz hcz hsplit ha, ← order_swap b a]
  by_cases hzac : (a.isZero && c.isZero) = true
  · obtain ⟨haz, hcz⟩ := Bool.and_eq_true_iff.1 hzac
    rw [order_of_zeros haz hcz]
    rfl
  rw [order_of_not_zeros (eq_false_of_ne_true hzab)] at hab
  rw [order_of_not_zeros (eq_false_of_ne_true hzbc)] at hbc
  rw [order_of_not_zeros (eq_false_of_ne_true hzac)]
  exact Std.TransCmp.isLE_trans hab hbc

/-- The order is transitive, unless two of the spans are zeros that come the wrong way round and
between which the third lies. -/
theorem isLE_trans_iff :
    ((a.order b).isLE = true → (b.order c).isLE = true → (a.order c).isLE = true) ↔
      ¬ c.SplitsZeros b a ∧ ¬ a.SplitsZeros c b := by
  constructor
  · intro h
    refine ⟨fun hsplit ↦ ?_, fun hsplit ↦ ?_⟩
    · have hle := h (by rw [hsplit.order_zeros]; rfl) (by rw [hsplit.order_minus]; rfl)
      rw [hsplit.order_plus] at hle
      cases hle
    · have hle := h (by rw [order_swap b a, hsplit.order_plus]; rfl)
        (by rw [hsplit.order_zeros]; rfl)
      rw [order_swap c a, hsplit.order_minus] at hle
      cases hle
  · rintro ⟨hc, ha⟩ hab hbc
    exact isLE_trans hab hbc hc ha

/-- Spans compared the other way round compare the other way, and they are the same where neither
comes first.  Their order is transitive, and spans that are the same have the same place in it,
unless a span lies between the two zeros that are among the three. -/
theorem order_laws (a b c : Span) :
    b.order a = (a.order b).swap ∧
      (a.same b = true ↔ a.order b = .eq) ∧
      (((a.order b).isLE = true → (b.order c).isLE = true → (a.order c).isLE = true) ↔
        ¬ c.SplitsZeros b a ∧ ¬ a.SplitsZeros c b) ∧
      ((a.same b = true → a.order c = b.order c) ↔
        ¬ c.SplitsZeros a b ∧ ¬ c.SplitsZeros b a) :=
  ⟨order_swap a b, beq_iff_eq, isLE_trans_iff, order_congr_iff⟩

/-- A second with a sign lies between the two zeros, which are the same. -/
theorem order_laws_fail :
    let minus : Span := { negative := true }
    let plus : Span := {}
    let second : Span := { negative := true, seconds := 1 }
    of 0 0 0 0 0 true = .ok minus ∧ of 0 0 0 0 0 false = .ok plus ∧
      of 0 0 0 1 0 true = .ok second ∧
      plus.same minus = true ∧ minus.order second = .lt ∧ plus.order second = .gt :=
  ⟨rfl, rfl, rfl, rfl, rfl, rfl⟩

end MariaClient.Temporal.Span
