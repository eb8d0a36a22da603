import MariaClient.Proofs.Decimal.Numeral

/-!
# Decimals as texts

A text of a sign, the digits before the point and those behind it is read as the number that all of
its digits make, which has to be a word of 64 bits before the sign is put to it (`parse_written`).
The text of a decimal is of that form, so that every decimal is read back but the lowest, whose
magnitude is no such word (`parse_text`).
-/

namespace MariaClient

/-! ## Blanks -/

namespace Text

variable {s : List Char}

theorem dropWhile_isBlank (h : ∀ c ∈ s, isBlank c = false) : s.dropWhile isBlank = s := by
  cases s with
  | nil => rfl
  | cons c s => exact List.dropWhile_cons_of_neg (by rw [h c List.mem_cons_self]; nofun)

/-- A text without blanks is left as it is. -/
theorem trim_of_no_blanks (h : ∀ c ∈ s, isBlank c = false) : trim s = s := by
  have hreverse : ∀ c ∈ s.reverse, isBlank c = false := fun c hc ↦ h c (List.mem_reverse.1 hc)
  rw [trim, trimStart, dropWhile_isBlank h, trimEnd, dropWhile_isBlank hreverse,
    List.reverse_reverse]

end Text

/-! ## Reading -/

namespace Decimal

open Text

variable {negative : Bool} {whole fraction : List Char}

/-- The point with the digits behind it, if there are any. -/
def pointed : List Char → List Char
  | [] => []
  | fraction => '.' :: fraction

/-- A sign, the digits before the point and those behind it. -/
def written (negative : Bool) (whole fraction : List Char) : List Char :=
  (if negative then ['-'] else []) ++ (whole ++ pointed fraction)

theorem isBlank_written (hw : ∀ c ∈ whole, c.isDigit = true)
    (hf : ∀ c ∈ fraction, c.isDigit = true) :
    ∀ c ∈ written negative whole fraction, isBlank c = false := by
  have hpointed : ∀ c ∈ pointed fraction, isBlank c = false := by
    cases fraction with
    | nil => nofun
    | cons d ds =>
      exact List.forall_mem_cons.2 ⟨rfl, fun c hc ↦ isBlank_of_isDigit (hf c hc)⟩
  refine List.forall_mem_append.2 ⟨?_, List.forall_mem_append.2
    ⟨fun c hc ↦ isBlank_of_isDigit (hw c hc), hpointed⟩⟩
  cases negative with
  | true => exact List.forall_mem_singleton.2 rfl
  | false => nofun

/-- The numeral that is written with a sign only if it is negative, and with a point only if digits
stand behind it. -/
def numeral (negative : Bool) (whole fraction : List Char) (hne : whole ≠ [])
    (hw : ∀ c ∈ whole, c.isDigit = true) (hf : ∀ c ∈ fraction, c.isDigit = true) : Numeral where
  sign := if negative then .minus else .absent
  whole
  fraction := if fraction = [] then none else some fraction
  isDigit_whole := hw
  isDigit_fraction := by
    cases fraction with
    | nil => nofun
    | cons c cs => exact hf
  digits_ne_nil := List.append_ne_nil_of_left_ne_nil hne _

section Written

variable (hne : whole ≠ []) (hw : ∀ c ∈ whole, c.isDigit = true)
  (hf : ∀ c ∈ fraction, c.isDigit = true)

theorem chars_numeral :
    (numeral negative whole fraction hne hw hf).chars = written negative whole fraction := by
  cases negative <;> cases fraction <;> rfl

theorem fraction_numeral :
    (numeral negative whole fraction hne hw hf).fraction.getD [] = fraction := by
  cases fraction <;> rfl

end Written

/-- A written number is read as what all of its digits make, if that fits. -/
theorem parse_written (negative : Bool) (hne : whole ≠ [])
    (hw : ∀ c ∈ whole, c.isDigit = true) (hf : ∀ c ∈ fraction, c.isDigit = true)
    (hlength : fraction.length ≤ maxPrecision) :
    parse (String.ofList (written negative whole fraction)) =
      (do
        let n ← checked .parse (Text.value (whole ++ fraction))
        return ⟨if negative then -n else n, fraction.length⟩) := by
  have htrim : trim (String.ofList (written negative whole fraction)).toList =
      (numeral negative whole fraction hne hw hf).chars := by
    rw [String.toList_ofList, trim_of_no_blanks (isBlank_written hw hf), chars_numeral]
  rw [parse_numeral _ htrim, Numeral.places, Numeral.magnitude, fraction_numeral hne hw hf,
    if_neg (Nat.not_lt.2 hlength)]
  cases negative <;> rfl

/-! ## Printing and reading -/

/-- The digits of a decimal behind the point. -/
def fractionDigits (d : Decimal) : List Char :=
  if d.precision = 0 then [] else padded d.precision (d.value.natAbs % 10 ^ d.precision)

/-- The digits of a decimal before the point. -/
def wholeDigits (d : Decimal) : List Char :=
  digits (d.value.natAbs / 10 ^ d.precision)

theorem pointed_of_ne_nil (h : fraction ≠ []) : pointed fraction = '.' :: fraction := by
  cases fraction with
  | nil => exact absurd rfl h
  | cons c cs => rfl

theorem length_fractionDigits (d : Decimal) : d.fractionDigits.length = d.precision := by
  unfold fractionDigits
  split
  · next h => exact h.symm
  · next h =>
    exact length_padded (Nat.pos_of_ne_zero h) (Nat.mod_lt _ (Nat.pow_pos (by decide)))

theorem value_fractionDigits (d : Decimal) :
    Text.value d.fractionDigits = d.value.natAbs % 10 ^ d.precision := by
  unfold fractionDigits
  split
  · next h => rw [h, Nat.pow_zero, Nat.mod_one]; rfl
  · exact value_padded _ _

theorem chars_eq (d : Decimal) :
    d.chars = written (decide (d.value < 0)) d.wholeDigits d.fractionDigits := by
  unfold chars written
  by_cases h : d.precision = 0
  · rw [if_pos h, signedDigits, wholeDigits, fractionDigits, if_pos h, h, Nat.pow_zero,
      Nat.div_one, pointed, List.append_nil]
    by_cases hneg : d.value < 0
    · rw [if_pos hneg, decide_eq_true hneg]
      rfl
    · rw [if_neg hneg, decide_eq_false hneg]
      rfl
  · have hne : d.fractionDigits ≠ [] := by
      rw [← List.length_pos_iff, length_fractionDigits]
      exact Nat.pos_of_ne_zero h
    rw [if_neg h, pointed_of_ne_nil hne, fractionDigits, if_neg h, List.append_assoc]
    simp only [decide_eq_true_eq]
    rfl

/-- All digits of a decimal make its magnitude. -/
theorem value_allDigits (d : Decimal) :
    Text.value (d.wholeDigits ++ d.fractionDigits) = d.value.natAbs := by
  rw [value_append, length_fractionDigits, value_fractionDigits, wholeDigits, value_digits,
    Nat.div_add_mod]

theorem isDigit_wholeDigits (d : Decimal) : ∀ c ∈ d.wholeDigits, c.isDigit = true :=
  fun _ hc ↦ isDigit_digits hc

theorem isDigit_fractionDigits (d : Decimal) : ∀ c ∈ d.fractionDigits, c.isDigit = true := by
  intro c hc
  unfold fractionDigits at hc
  split at hc
  · cases hc
  · exact isDigit_padded hc

theorem wholeDigits_ne_nil (d : Decimal) : d.wholeDigits ≠ [] :=
  Nat.toDigits_ne_nil

/-- The text of a decimal is read as its magnitude, if that fits, and then as its sign. -/
theorem parse_magnitude (d : Decimal) (h : d.precision ≤ maxPrecision) :
    parse d.text =
      (do
        let n ← checked .parse d.value.natAbs
        return ⟨if decide (d.value < 0) then -n else n, d.precision⟩) := by
  have hread := parse_written (decide (d.value < 0)) d.wholeDigits_ne_nil
    d.isDigit_wholeDigits d.isDigit_fractionDigits (by rwa [length_fractionDigits])
  rwa [value_allDigits, length_fractionDigits, ← chars_eq] at hread

/-- A decimal is read back from its text, unless it is the lowest at its precision. -/
theorem parse_text (d : Decimal) (h : d.Valid) :
    parse d.text = if d.value = -2 ^ 63 then .error (overflow .parse) else .ok d := by
  obtain ⟨hfits, hprecision⟩ := h
  rw [parse_magnitude d hprecision]
  rw [fits_iff] at hfits
  by_cases hlow : d.value = -2 ^ 63
  · have hmagnitude : ¬ fits d.value.natAbs = true := by
      rw [hlow]
      decide
    rw [if_pos hlow, checked_bind_of_not_fits _ hmagnitude]
  · have hmagnitude : fits d.value.natAbs = true := by
      rw [fits_iff]
      omega
    have hsigned : (if decide (d.value < 0) then -(d.value.natAbs : Int) else d.value.natAbs) =
        d.value := by
      simp only [decide_eq_true_eq]
      omega
    rw [if_neg hlow, checked_bind_of_fits _ hmagnitude, hsigned]
    rfl

/-- The highest decimal is read back. -/
theorem parse_text_highest :
    (⟨2 ^ 63 - 1, 18⟩ : Decimal).Valid ∧
      parse (text ⟨2 ^ 63 - 1, 18⟩) = .ok ⟨2 ^ 63 - 1, 18⟩ :=
  have h : (⟨2 ^ 63 - 1, 18⟩ : Decimal).Valid := ⟨by decide, by decide⟩
  ⟨h, (parse_text _ h).trans (if_neg (by decide))⟩

/-- The lowest decimal has a text, which is not read. -/
theorem parse_text_lowest :
    (⟨-2 ^ 63, 2⟩ : Decimal).Valid ∧
      text ⟨-2 ^ 63, 2⟩ = "-92233720368547758.08" ∧
      parse (text ⟨-2 ^ 63, 2⟩) = .error (overflow .parse) :=
  ⟨⟨by decide, by decide⟩, by rfl,
    (parse_magnitude _ (by decide)).trans (checked_bind_of_not_fits _ (by decide))⟩

end Decimal

end MariaClient
