import MariaClient.Text.Utf8

/-!
# Texts and their bytes

The bytes of a text spell that text again.  A character of more than one byte is left pending by
its first byte with bounds on the second one; `lead_three` and `lead_four` say that the second byte
of a character always lies within them, which is where surrogates, overlong forms and code points
past the last one are ruled out.  A zero byte spells the character of the code zero and occurs in no
other one (`ne_zero_of_mem_encode`), so that it can mark the end of a text.
-/

namespace MariaClient.Text

/-! ## Single bytes -/

theorem decodeFrom_cons (p : Option Partial) (b : UInt8) (rest : List UInt8) :
    decodeFrom p (b :: rest) = (step p b).1 ++ decodeFrom (step p b).2 rest := rfl

/-- A byte within the bounds that a pending character sets goes on with it. -/
theorem step_of_bounds {q : Partial} {n : Nat} (hn : n < 256) (hl : q.low ≤ n) (hh : n ≤ q.high) :
    step (some q) (UInt8.ofNat n) =
      if q.missing = 0 then ([Char.ofNat (q.code * 64 + (n - 0x80))], none)
      else ([], some { code := q.code * 64 + (n - 0x80), missing := q.missing - 1 }) := by
  simp only [step, UInt8.toNat_ofNat_of_lt' hn, hl, hh, and_self, if_true]

/-! ## First bytes -/

theorem lead_one {n : Nat} (h : n < 0x80) : lead (UInt8.ofNat n) = .complete (Char.ofNat n) := by
  simp [lead, UInt8.toNat_ofNat_of_lt' (show n < 256 by omega), h]

theorem lead_two {n : Nat} (h₁ : 0x80 ≤ n) (h₂ : n ≤ 0x7FF) :
    lead (UInt8.ofNat (n / 64 % 32 + 0xC0)) = .more { code := n / 64, missing := 0 } := by
  have e : n / 64 % 32 = n / 64 := by omega
  have h₃ : ¬ n / 64 + 0xC0 < 0x80 := by omega
  have h₄ : ¬ n / 64 + 0xC0 < 0xC2 := by omega
  have h₅ : n / 64 + 0xC0 < 0xE0 := by omega
  simp only [lead, e, UInt8.toNat_ofNat_of_lt' (show n / 64 + 0xC0 < 256 by omega), h₃, h₄, h₅,
    if_true, if_false, Nat.add_sub_cancel]

/-- What the first of three bytes leaves pending.  The least and the greatest of the second byte are
bounded where overlong forms and surrogates would begin. -/
theorem lead_of_three {k : Nat} (hk : k < 16) :
    lead (UInt8.ofNat (k + 0xE0)) =
      .more { code := k
              low := if k = 0 then 0xA0 else 0x80
              high := if k = 0xD then 0x9F else 0xBF
              missing := 1 } := by
  by_cases h₀ : k = 0
  · subst h₀
    rfl
  by_cases h₁ : k = 0xD
  · subst h₁
    rfl
  have h₂ : ¬ k + 0xE0 < 0x80 := by omega
  have h₃ : ¬ k + 0xE0 < 0xC2 := by omega
  have h₄ : ¬ k + 0xE0 < 0xE0 := by omega
  have h₅ : ¬ k + 0xE0 = 0xE0 := by omega
  have h₆ : ¬ k + 0xE0 = 0xED := by omega
  have h₇ : k + 0xE0 < 0xF0 := by omega
  simp only [lead, UInt8.toNat_ofNat_of_lt' (show k + 0xE0 < 256 by omega), beq_iff_eq, h₀, h₁, h₂,
    h₃, h₄, h₅, h₆, h₇, if_true, if_false, Nat.add_sub_cancel]

/-- What the first of four bytes leaves pending, with the same bounds for overlong forms and for
what lies past the last code point. -/
theorem lead_of_four {k : Nat} (hk : k < 5) :
    lead (UInt8.ofNat (k + 0xF0)) =
      .more { code := k
              low := if k = 0 then 0x90 else 0x80
              high := if k = 4 then 0x8F else 0xBF
              missing := 2 } := by
  match k, hk with
  | 0, _ => rfl
  | 1, _ => rfl
  | 2, _ => rfl
  | 3, _ => rfl
  | 4, _ => rfl

/-- The first of three bytes leaves a character pending that the second byte can go on with.  That
fails for surrogates, whose second byte is too large. -/
theorem lead_three {n : Nat} (h₁ : 0x800 ≤ n) (h₂ : n ≤ 0xFFFF)
    (h₃ : n < 0xD800 ∨ 0xDFFF < n) :
    ∃ q, lead (UInt8.ofNat (n / 4096 % 16 + 0xE0)) = .more q ∧ q.code = n / 4096 ∧
      q.missing = 1 ∧ q.low ≤ n / 64 % 64 + 0x80 ∧ n / 64 % 64 + 0x80 ≤ q.high := by
  have hk : n / 4096 % 16 = n / 4096 := by omega
  rw [hk]
  refine ⟨_, lead_of_three (by omega), rfl, rfl, ?_, ?_⟩
  · dsimp only
    split <;> omega
  · dsimp only
    split <;> omega

/-- The first of four bytes leaves a character pending that the second byte can go on with. -/
theorem lead_four {n : Nat} (h₁ : 0x10000 ≤ n) (h₂ : n < 0x110000) :
    ∃ q, lead (UInt8.ofNat (n / 262144 % 8 + 0xF0)) = .more q ∧ q.code = n / 262144 ∧
      q.missing = 2 ∧ q.low ≤ n / 4096 % 64 + 0x80 ∧ n / 4096 % 64 + 0x80 ≤ q.high := by
  have hk : n / 262144 % 8 = n / 262144 := by omega
  rw [hk]
  refine ⟨_, lead_of_four (by omega), rfl, rfl, ?_, ?_⟩
  · dsimp only
    split <;> omega
  · dsimp only
    split <;> omega

/-! ## Whole characters -/

theorem decodeFrom_of_lead {b : UInt8} {q : Partial} (h : lead b = .more q) (rest : List UInt8) :
    decodeFrom none (b :: rest) = decodeFrom (some q) rest := by
  simp [decodeFrom_cons, step, begin, h]

/-- The byte of six bits within the bounds of a pending character goes on with it. -/
theorem decodeFrom_more {q : Partial} {m k : Nat} (hm : q.missing = k + 1)
    (hl : q.low ≤ m % 64 + 0x80) (hh : m % 64 + 0x80 ≤ q.high) (rest : List UInt8) :
    decodeFrom (some q) (UInt8.ofNat (m % 64 + 0x80) :: rest) =
      decodeFrom (some { code := q.code * 64 + m % 64, missing := k }) rest := by
  rw [decodeFrom_cons, step_of_bounds (by omega) hl hh, hm]
  simp

/-- The last byte of six bits ends a pending character. -/
theorem decodeFrom_last {q : Partial} {m : Nat} (hm : q.missing = 0)
    (hl : q.low ≤ m % 64 + 0x80) (hh : m % 64 + 0x80 ≤ q.high) (rest : List UInt8) :
    decodeFrom (some q) (UInt8.ofNat (m % 64 + 0x80) :: rest) =
      Char.ofNat (q.code * 64 + m % 64) :: decodeFrom none rest := by
  rw [decodeFrom_cons, step_of_bounds (by omega) hl hh, hm]
  simp

/-- The bytes of a character spell it, whatever comes after them. -/
theorem decodeFrom_encodeChar (c : Char) (rest : List UInt8) :
    decodeFrom none (String.utf8EncodeChar c ++ rest) = c :: decodeFrom none rest := by
  have hc : c.toNat < 0xD800 ∨ 0xDFFF < c.toNat ∧ c.toNat < 0x110000 := c.valid
  have hofNat : ∀ n, n = c.toNat → Char.ofNat n = c := fun n h ↦ by rw [h, Char.ofNat_toNat]
  have hv : c.val.toNat = c.toNat := rfl
  simp only [String.utf8EncodeChar, hv]
  split
  · next h =>
    have hlead := lead_one (n := c.toNat) (by omega)
    simp [decodeFrom_cons, step, begin, hlead]
  split
  · next h =>
    rw [List.cons_append, decodeFrom_of_lead (lead_two (by omega) h), List.cons_append,
      decodeFrom_last rfl (by simp) (by simp; omega), hofNat _ (by simp; omega)]
    rfl
  split
  · next h =>
    obtain ⟨q, hq, hcode, hm, hlow, hhigh⟩ := lead_three (n := c.toNat) (by omega) h (by omega)
    rw [List.cons_append, decodeFrom_of_lead hq, List.cons_append, decodeFrom_more hm hlow hhigh,
      List.cons_append, decodeFrom_last rfl (by simp) (by simp; omega), hcode,
      hofNat _ (by simp; omega)]
    rfl
  · next h =>
    obtain ⟨q, hq, hcode, hm, hlow, hhigh⟩ := lead_four (n := c.toNat) (by omega) (by omega)
    rw [List.cons_append, decodeFrom_of_lead hq, List.cons_append, decodeFrom_more hm hlow hhigh,
      List.cons_append, decodeFrom_more rfl (by simp) (by simp; omega), List.cons_append,
      decodeFrom_last rfl (by simp) (by simp; omega), hcode, hofNat _ (by simp; omega)]
    rfl

theorem decodeFrom_encode (cs : List Char) :
    decodeFrom none (cs.flatMap String.utf8EncodeChar) = cs := by
  induction cs with
  | nil => rfl
  | cons c cs ih => rw [List.flatMap_cons, decodeFrom_encodeChar, ih]

/-- A text is what its bytes spell. -/
@[simp] theorem decode_encode (s : String) : decode (encode s) = s := by
  rw [decode, encode, decodeFrom_encode, String.ofList_toList]

/-! ## Zero bytes in texts -/

theorem byte_ne_zero {n : Nat} (hpos : n ≠ 0) (h : n < 256) : UInt8.ofNat n ≠ 0 := by
  intro hzero
  have hn := congrArg UInt8.toNat hzero
  rw [UInt8.toNat_ofNat_of_lt' h] at hn
  exact hpos hn

/-- Only the character of the code zero has a zero byte. -/
theorem ne_zero_of_mem_utf8EncodeChar {c : Char} (hc : c.toNat ≠ 0) :
    ∀ b ∈ String.utf8EncodeChar c, b ≠ 0 := by
  have hv : c.val.toNat = c.toNat := rfl
  have hmarked (m n k : Nat) (h : 0 < m ∧ 0 < k ∧ m + k ≤ 256) : UInt8.ofNat (n % m + k) ≠ 0 := by
    have hmod := Nat.mod_lt n h.1
    exact byte_ne_zero (by omega) (by omega)
  have hmore (n : Nat) : UInt8.ofNat (n % 64 + 0x80) ≠ 0 := hmarked 64 n 0x80 (by decide)
  simp only [String.utf8EncodeChar, hv]
  split
  next hone => exact List.forall_mem_singleton.2 (byte_ne_zero hc (by omega))
  split
  next =>
    exact List.forall_mem_cons.2 ⟨hmarked 32 _ _ (by decide),
      List.forall_mem_singleton.2 (hmore _)⟩
  split
  next =>
    exact List.forall_mem_cons.2 ⟨hmarked 16 _ _ (by decide),
      List.forall_mem_cons.2 ⟨hmore _, List.forall_mem_singleton.2 (hmore _)⟩⟩
  next =>
    exact List.forall_mem_cons.2 ⟨hmarked 8 _ _ (by decide), List.forall_mem_cons.2
      ⟨hmore _, List.forall_mem_cons.2 ⟨hmore _, List.forall_mem_singleton.2 (hmore _)⟩⟩⟩

/-- A text has no zero byte if it has no character of the code zero. -/
theorem ne_zero_of_mem_encode {s : String} (h : Char.ofNat 0 ∉ s.toList) :
    ∀ b ∈ encode s, b ≠ 0 := by
  intro b hb
  obtain ⟨c, hc, hbyte⟩ := List.mem_flatMap.1 hb
  refine ne_zero_of_mem_utf8EncodeChar ?_ b hbyte
  intro hcode
  rw [← Char.ofNat_toNat c, hcode] at hc
  exact h hc

end MariaClient.Text
