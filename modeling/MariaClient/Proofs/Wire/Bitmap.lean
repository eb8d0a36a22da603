import MariaClient.Wire.Execute
import MariaClient.Wire.Row

/-!
# Bitmaps

Flags are packed eight to a byte, the first into the lowest bit.  `testBit_packBits` says that
testing a bit gives the flag back, so the bitmaps of a command and of a row can be read.
-/

namespace MariaClient.Wire

/-- The bits of a bitmap are those of the number that its bytes make. -/
theorem testBit_eq_ofLE (bitmap : Bytes) (bit : Nat) :
    testBit bitmap bit = (ofLE bitmap).testBit bit := by
  induction bitmap generalizing bit with
  | nil => rw [testBit, List.getElem?_nil, ofLE, Nat.zero_testBit]
  | cons b bs ih =>
    have hbyte : b.toNat < 2 ^ 8 := b.toNat_lt
    have hsum : ofLE (b :: bs) = 2 ^ 8 * ofLE bs + b.toNat := Nat.add_comm _ _
    rw [hsum, Nat.testBit_two_pow_mul_add _ hbyte, testBit]
    by_cases hlow : bit < 8
    · rw [if_pos hlow, Nat.div_eq_of_lt hlow, Nat.mod_eq_of_lt hlow]
      rfl
    · obtain ⟨k, rfl⟩ := Nat.exists_eq_add_of_le (Nat.le_of_not_lt hlow)
      have hdiv : (8 + k) / 8 = k / 8 + 1 := by omega
      have hmod : (8 + k) % 8 = k % 8 := by omega
      rw [if_neg hlow, Nat.add_sub_cancel_left, ← ih, testBit, hdiv, hmod,
        List.getElem?_cons_succ]

/-- The number whose bits are some flags, the first the lowest. -/
def ofFlags : List Bool → Nat
  | [] => 0
  | flag :: flags => flag.toNat + 2 * ofFlags flags

theorem ofFlags_lt (flags : List Bool) : ofFlags flags < 2 ^ flags.length := by
  induction flags with
  | nil => simp [ofFlags]
  | cons flag flags ih =>
    have hflag := Bool.toNat_lt flag
    rw [ofFlags, List.length_cons, Nat.pow_succ]
    omega

theorem testBit_ofFlags (flags : List Bool) (i : Nat) :
    (ofFlags flags).testBit i = flags.getD i false := by
  induction flags generalizing i with
  | nil => simp [ofFlags]
  | cons flag flags ih =>
    have hflag := Bool.toNat_lt flag
    cases i with
    | zero =>
      rw [ofFlags, Nat.testBit_zero, Nat.add_mul_mod_self_left, Nat.mod_eq_of_lt hflag]
      cases flag <;> rfl
    | succ i =>
      rw [ofFlags, Nat.testBit_succ, Nat.add_mul_div_left _ _ (by decide),
        Nat.div_eq_of_lt hflag, Nat.zero_add, ih]
      rfl

/-- A byte adds up the powers of two of its flags. -/
theorem foldr_zipIdx_flags (flags : List Bool) (k : Nat) :
    (flags.zipIdx k).foldr (fun (flag, i) n ↦ (if flag then 2 ^ i else 0) + n) 0 =
      2 ^ k * ofFlags flags := by
  induction flags generalizing k with
  | nil => rfl
  | cons flag flags ih =>
    rw [List.zipIdx_cons, List.foldr_cons, ih, ofFlags, Nat.mul_add, Nat.pow_succ, Nat.mul_assoc]
    cases flag <;> simp

/-- The byte of eight flags. -/
theorem packBits_go_succ (count : Nat) (flags : List Bool) :
    packBits.go (count + 1) flags =
      UInt8.ofNat (ofFlags (flags.take 8)) :: packBits.go count (flags.drop 8) := by
  rw [packBits.go, foldr_zipIdx_flags, Nat.pow_zero, Nat.one_mul]

@[simp] theorem length_packBits (flags : List Bool) :
    (packBits flags).length = (flags.length + 7) / 8 := by
  have hgo (count : Nat) : ∀ flags, (packBits.go count flags).length = count := by
    induction count with
    | zero => exact fun _ ↦ rfl
    | succ count ih => exact fun flags ↦ by rw [packBits_go_succ, List.length_cons, ih]
  exact hgo _ flags

theorem testBit_byte (flags : List Bool) {i : Nat} (hi : i < 8) :
    (UInt8.ofNat (ofFlags (flags.take 8))).toNat.testBit i = flags.getD i false := by
  have hlen : (flags.take 8).length ≤ 8 := by rw [List.length_take]; omega
  have hlt : ofFlags (flags.take 8) < 256 :=
    Nat.lt_of_lt_of_le (ofFlags_lt _) (Nat.pow_le_pow_right (by decide) hlen)
  rw [UInt8.toNat_ofNat_of_lt' hlt, testBit_ofFlags]
  simp [List.getD_eq_getElem?_getD, hi]

/-- Testing a bit gives the flag that was packed into it. -/
theorem testBit_packBits (flags : List Bool) {i : Nat} (hi : i < flags.length) :
    testBit (packBits flags) i = flags[i] := by
  have hgo (count : Nat) : ∀ (flags : List Bool) (i : Nat), i < 8 * count →
      testBit (packBits.go count flags) i = flags.getD i false := by
    induction count with
    | zero => exact fun _ _ h ↦ absurd h (Nat.not_lt_zero _)
    | succ count ih =>
      intro flags i hi
      rw [packBits_go_succ]
      by_cases hlow : i < 8
      · rw [testBit, Nat.div_eq_of_lt hlow, Nat.mod_eq_of_lt hlow]
        exact testBit_byte flags hlow
      · obtain ⟨j, rfl⟩ := Nat.exists_eq_add_of_le (Nat.le_of_not_lt hlow)
        have hdiv : (8 + j) / 8 = j / 8 + 1 := by omega
        have hmod : (8 + j) % 8 = j % 8 := by omega
        have hrest := ih (flags.drop 8) j (by omega)
        rw [testBit] at hrest ⊢
        rw [hdiv, hmod, List.getElem?_cons_succ, hrest]
        simp [List.getD_eq_getElem?_getD]
  rw [packBits, hgo _ flags i (by omega)]
  simp [List.getD_eq_getElem?_getD, hi]

/-- All flags that were packed. -/
theorem range_map_testBit (flags : List Bool) :
    (List.range flags.length).map (testBit (packBits flags)) = flags := by
  refine List.ext_getElem (by simp) fun i h _ ↦ ?_
  rw [List.length_map, List.length_range] at h
  rw [List.getElem_map, List.getElem_range, testBit_packBits flags h]

end MariaClient.Wire
