import MariaClient.Proofs.Text.Utf8
import MariaClient.Wire.Reader

/-!
# What a reader takes

`Reads r bs a` says that a reader takes exactly the bytes `bs` and gives `a`, whatever follows them.
It is closed under sequencing (`Reads.bind`), so that the law of a packet is put together from the
laws of its fields: numbers, length-encoded numbers, byte strings and texts read back what the
writers of `MariaClient.Wire.Reader` wrote.
-/

namespace MariaClient.Wire

variable {α β : Type}

/-- The reader takes exactly the bytes `bs` and gives `a`, whatever follows them. -/
def Reads (r : Reader α) (bs : Bytes) (a : α) : Prop :=
  ∀ rest, r (bs ++ rest) = (.ok a, rest)

namespace Reads

theorem pure (a : α) : Reads (pure a) [] a := fun _ ↦ rfl

theorem bind {r : Reader α} {f : α → Reader β} {bs bs' : Bytes} {a : α} {b : β}
    (h : Reads r bs a) (h' : Reads (f a) bs' b) : Reads (r >>= f) (bs ++ bs') b := by
  intro rest
  rw [List.append_assoc, Attempt.bind_apply_ok (h _), h' rest]

/-- A value that is given without taking anything. -/
theorem pure_bind {f : α → Reader β} {bs : Bytes} {a : α} {b : β} (h : Reads (f a) bs b) :
    Reads (Pure.pure a >>= f) bs b :=
  h

theorem map {r : Reader α} {bs : Bytes} {a : α} (h : Reads r bs a) (f : α → β) :
    Reads (r >>= fun x ↦ Pure.pure (f x)) bs (f a) := by
  intro rest
  rw [Attempt.bind_apply_ok (h _)]
  rfl

/-- Running a reader on what it takes and some bytes behind that. -/
theorem run {r : Reader α} {bs : Bytes} {a : α} (h : Reads r bs a) (rest : Bytes) :
    r.run (bs ++ rest) = .ok a := by
  rw [Attempt.run, h rest]

end Reads

/-! ## Numbers and byte strings -/

theorem reads_bytes {n : Nat} {bs : Bytes} (h : bs.length = n) : Reads (Reader.bytes n) bs bs := by
  intro rest
  subst h
  simp [Reader.bytes]

theorem reads_byte (b : UInt8) : Reads Reader.byte [b] b :=
  (reads_bytes rfl : Reads (Reader.bytes 1) [b] [b]).bind (.pure b)

theorem reads_le {count n : Nat} (h : n < 256 ^ count) :
    Reads (Reader.le count) (toLE count n) n := by
  have hr := (reads_bytes (length_toLE count n)).map ofLE
  rwa [ofLE_toLE, Nat.mod_eq_of_lt h] at hr

/-- Bytes that end with the first zero byte. -/
theorem reads_nulBytes {bs : Bytes} (h : ∀ b ∈ bs, b ≠ 0) :
    Reads Reader.nulBytes (bs ++ [0]) bs := by
  intro rest
  have hbytes : ∀ b ∈ bs, (b != 0) = true := fun b hb ↦ bne_iff_ne.2 (h b hb)
  rw [Reader.nulBytes, List.append_assoc, List.singleton_append,
    List.takeWhile_append_of_pos hbytes, List.dropWhile_append_of_pos hbytes,
    List.takeWhile_cons_of_neg (by decide), List.dropWhile_cons_of_neg (by decide),
    List.append_nil]
  rfl

/-- A first byte below 251 is the number itself, so it is none of the bytes that stand for something
else. -/
theorem ofNat_ne_of_lt {n : Nat} {b : UInt8} (h : n < 251) (hb : 251 ≤ b.toNat) :
    UInt8.ofNat n ≠ b := by
  rintro rfl
  rw [UInt8.toNat_ofNat_of_lt' (Nat.lt_trans h (by decide))] at hb
  exact Nat.not_lt.2 hb h

/-- A number behind the byte that tells its length. -/
theorem reads_lenEncInt {n : Nat} (h : n < 2 ^ 64) :
    Reads Reader.lenEncInt (lenEncInt n) (some n) := by
  unfold lenEncInt Reader.lenEncInt
  split
  · next h₁ =>
    have hn : (UInt8.ofNat n).toNat = n :=
      UInt8.toNat_ofNat_of_lt' (Nat.lt_trans h₁ (by decide))
    refine (reads_byte (UInt8.ofNat n)).bind ?_
    rw [if_neg (ofNat_ne_of_lt h₁ (by decide)), if_neg (ofNat_ne_of_lt h₁ (by decide)),
      if_neg (ofNat_ne_of_lt h₁ (by decide)), if_neg (ofNat_ne_of_lt h₁ (by decide)), hn]
    exact .pure _
  split
  · exact (reads_byte 0xfc).bind ((reads_le (by omega)).map some)
  split
  · exact (reads_byte 0xfd).bind ((reads_le (by omega)).map some)
  · exact (reads_byte 0xfe).bind ((reads_le h).map some)

/-- The mark that stands for no value. -/
theorem reads_lenEncInt_none : Reads Reader.lenEncInt [0xfb] none :=
  (reads_byte 0xfb).bind (.pure _)

theorem reads_lenEncBytes {bs : Bytes} (h : bs.length < 2 ^ 64) :
    Reads Reader.lenEncBytes (lenEncBytes bs) (some bs) :=
  (reads_lenEncInt h).bind ((reads_bytes rfl).map some)

theorem reads_lenEncBytes_none : Reads Reader.lenEncBytes [0xfb] none :=
  reads_lenEncInt_none.bind (.pure _)

/-- The bytes of a text behind their length. -/
theorem reads_lenEncText {s : String} (h : (Text.encode s).length < 2 ^ 64) :
    Reads Reader.lenEncText (lenEncBytes (Text.encode s)) s := by
  have hr := (reads_lenEncBytes h).map fun bs ↦ Text.decode (bs.getD [])
  rwa [Option.getD_some, Text.decode_encode] at hr

/-- A reader that is run once for each of some values. -/
theorem reads_times {r : Reader α} {encode : α → Bytes} {as : List α}
    (h : ∀ a ∈ as, Reads r (encode a) a) :
    Reads (Reader.times r as.length) (as.flatMap encode) as := by
  induction as with
  | nil => exact .pure []
  | cons a as ih =>
    have h₁ := h a List.mem_cons_self
    have h₂ := ih fun b hb ↦ h b (List.mem_cons_of_mem a hb)
    exact h₁.bind (h₂.map (a :: ·))

end MariaClient.Wire
