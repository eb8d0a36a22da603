import MariaClient.Text.Digits

/-!
# Numbers with a least width

The zeros in front of a number do not change what it is read as, and the first digits of a run are
what is left of its number once the others are divided away.
-/

namespace MariaClient.Text

variable {ds : List Char} {width n : Nat}

theorem value_append (ds es : List Char) :
    value (ds ++ es) = 10 ^ es.length * value ds + value es := by
  rw [value, Nat.ofDigitChars_append, Nat.ofDigitChars_eq_ofDigitChars_zero, value, value]

theorem value_replicate_zero (k : Nat) : value (List.replicate k '0') = 0 := by
  rw [value, Nat.ofDigitChars_replicate_zero, Nat.mul_zero]

@[simp] theorem value_padded (width n : Nat) : value (padded width n) = n := by
  rw [padded, value_append, value_replicate_zero, Nat.mul_zero, Nat.zero_add, value_digits]

theorem isDigit_digits {c : Char} (h : c ∈ digits n) : c.isDigit = true :=
  Nat.isDigit_of_mem_toDigits (by decide) (by decide) h

theorem isDigit_padded {c : Char} (h : c ∈ padded width n) : c.isDigit = true := by
  rcases List.mem_append.1 h with hzero | hdigit
  · rw [(List.mem_replicate.1 hzero).2]
    rfl
  · exact isDigit_digits hdigit

theorem digits?_eq (hne : ds ≠ []) (h : ∀ c ∈ ds, c.isDigit = true) :
    digits? ds = some (value ds) := by
  rw [digits?, if_pos ⟨hne, List.all_eq_true.2 h⟩]

/-- A run of digits begins with no sign. -/
theorem unsigned?_eq (h : ∀ c ∈ ds, c.isDigit = true) : unsigned? ds = digits? ds := by
  rw [unsigned?.eq_2]
  rintro rest rfl
  cases h '+' List.mem_cons_self

/-- The digits of a number in a word of so many bits are read back. -/
theorem unsignedWord?_digits {bits : Nat} (h : n < 2 ^ bits) :
    unsignedWord? bits (digits n) = some n := by
  have hne : digits n ≠ [] := Nat.toDigits_ne_nil
  have hdigit : ∀ c ∈ digits n, c.isDigit = true := fun c ↦ isDigit_digits
  rw [unsignedWord?, unsigned?_eq hdigit, digits?_eq hne hdigit, value_digits, Option.filter_some,
    if_pos (decide_eq_true h)]

theorem le_length_padded (width n : Nat) : width ≤ (padded width n).length := by
  rw [padded, List.length_append, List.length_replicate]
  omega

theorem length_padded (hpos : 0 < width) (h : n < 10 ^ width) :
    (padded width n).length = width := by
  have hdigits : (digits n).length ≤ width :=
    (Nat.length_toDigits_le_iff (by decide) hpos).2 h
  rw [padded, List.length_append, List.length_replicate]
  omega

theorem toNat_le_of_isDigit {c : Char} (h : c.isDigit = true) : c.toNat ≤ 57 := by
  rw [Char.isDigit, Bool.and_eq_true, decide_eq_true_eq, decide_eq_true_eq] at h
  exact UInt32.le_iff_toNat_le.1 h.2

theorem value_lt (h : ∀ c ∈ ds, c.isDigit = true) : value ds < 10 ^ ds.length := by
  induction ds with
  | nil => exact Nat.zero_lt_one
  | cons d ds ih =>
    have hrest := ih fun c hc ↦ h c (List.mem_cons_of_mem d hc)
    have hdigit : value [d] ≤ 9 := by
      have hd := toNat_le_of_isDigit (h d List.mem_cons_self)
      change 10 * 0 + (d.toNat - 48) ≤ 9
      omega
    have hlead := Nat.mul_le_mul_left (10 ^ ds.length) hdigit
    rw [← List.singleton_append, value_append, List.length_append, List.length_singleton,
      Nat.pow_add]
    omega

/-- The first digits of a run. -/
theorem value_take (h : ∀ c ∈ ds, c.isDigit = true) (k : Nat) :
    value (ds.take k) = value ds / 10 ^ (ds.drop k).length := by
  have hrest : value (ds.drop k) < 10 ^ (ds.drop k).length :=
    value_lt fun c hc ↦ h c (List.mem_of_mem_drop hc)
  have hwhole : value ds = 10 ^ (ds.drop k).length * value (ds.take k) + value (ds.drop k) := by
    rw [← value_append, List.take_append_drop]
  rw [hwhole, Nat.mul_add_div (Nat.pow_pos (by decide)), Nat.div_eq_of_lt hrest, Nat.add_zero]

end MariaClient.Text
