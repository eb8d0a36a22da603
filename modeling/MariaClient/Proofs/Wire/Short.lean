import MariaClient.Proofs.Wire.Reads

/-!
# Packets that break off

`Short r bs` says that a reader that finds only the first of the bytes `bs` fails, and says that the
packet is too short.  It is closed under sequencing (`Short.bind`), so that a packet that breaks off
is refused wherever it does so.
-/

namespace MariaClient.Wire

variable {α β : Type}

/-- The reader fails on each beginning of the bytes `bs`. -/
def Short (r : Reader α) (bs : Bytes) : Prop :=
  ∀ n < bs.length, r.run (bs.take n) = .error (.protocol .tooShort)

/-- A reader that fails leaves some bytes. -/
theorem exists_rest {r : Reader α} {bs : Bytes} {e : Error} (h : r.run bs = .error e) :
    ∃ rest, r bs = (.error e, rest) :=
  ⟨(r bs).2, Prod.ext h rfl⟩

theorem run_bind_error {r : Reader α} {f : α → Reader β} {bs : Bytes} {e : Error}
    (h : r.run bs = .error e) : (r >>= f).run bs = .error e := by
  obtain ⟨rest, hr⟩ := exists_rest h
  rw [Attempt.run, Attempt.bind_apply_error hr]

namespace Short

/-- The reader takes all the bytes before it goes on. -/
theorem bind_left {r : Reader α} {bs : Bytes} (h : Short r bs) (f : α → Reader β) :
    Short (r >>= f) bs :=
  fun n hn ↦ run_bind_error (h n hn)

theorem bind {r : Reader α} {f : α → Reader β} {bs bs' : Bytes} {a : α} (h : Short r bs)
    (hreads : Reads r bs a) (h' : Short (f a) bs') : Short (r >>= f) (bs ++ bs') := by
  intro n hn
  rcases Nat.lt_or_ge n bs.length with hlt | hge
  · rw [List.take_append_of_le_length (Nat.le_of_lt hlt)]
    exact run_bind_error (h n hlt)
  · rw [List.take_append, List.take_of_length_le hge, Attempt.run,
      Attempt.bind_apply_ok (hreads _)]
    rw [List.length_append] at hn
    exact h' _ (by omega)

/-- Bytes with which `bs` begins, but not all of them. -/
theorem run_beginning {r : Reader α} {bs packet : Bytes} (h : Short r bs)
    (hbeginning : packet <+: bs) (hne : packet ≠ bs) :
    r.run packet = .error (.protocol .tooShort) := by
  have hlt : packet.length < bs.length :=
    Nat.lt_of_le_of_ne hbeginning.length_le fun heq ↦ hne (hbeginning.eq_of_length heq)
  rw [List.prefix_iff_eq_take.1 hbeginning]
  exact h _ hlt

end Short

theorem short_bytes {n : Nat} {bs : Bytes} (h : bs.length = n) : Short (Reader.bytes n) bs := by
  intro k hk
  have hlt : (bs.take k).length < n := by
    rw [List.length_take]
    omega
  rw [Attempt.run, Reader.bytes, if_pos hlt]

theorem short_byte (b : UInt8) : Short Reader.byte [b] :=
  (short_bytes rfl).bind_left _

theorem short_le (count n : Nat) : Short (Reader.le count) (toLE count n) :=
  (short_bytes (length_toLE count n)).bind_left _

theorem short_lenEncInt (n : Nat) : Short Reader.lenEncInt (lenEncInt n) := by
  unfold lenEncInt
  split
  · exact (short_byte (UInt8.ofNat n)).bind_left _
  split
  · exact (short_byte 0xfc).bind (reads_byte 0xfc) ((short_le 2 n).bind_left _)
  split
  · exact (short_byte 0xfd).bind (reads_byte 0xfd) ((short_le 3 n).bind_left _)
  · exact (short_byte 0xfe).bind (reads_byte 0xfe) ((short_le 8 n).bind_left _)

theorem short_lenEncBytes {bs : Bytes} (h : bs.length < 2 ^ 64) :
    Short Reader.lenEncBytes (lenEncBytes bs) :=
  (short_lenEncInt bs.length).bind (reads_lenEncInt h) ((short_bytes rfl).bind_left _)

theorem short_lenEncBytes_none : Short Reader.lenEncBytes [0xfb] :=
  ((short_byte 0xfb).bind_left _).bind_left _

/-- A reader that is run once for each of some values fails where one of them breaks off, for those
before it are read. -/
theorem short_times {r : Reader α} {encode : α → Bytes} {as : List α}
    (hreads : ∀ a ∈ as, Reads r (encode a) a) (hshort : ∀ a ∈ as, Short r (encode a)) :
    Short (Reader.times r as.length) (as.flatMap encode) := by
  induction as with
  | nil => exact fun n hn ↦ absurd hn (Nat.not_lt_zero n)
  | cons a as ih =>
    obtain ⟨hfirst, hreads⟩ := List.forall_mem_cons.1 hreads
    obtain ⟨hbreak, hshort⟩ := List.forall_mem_cons.1 hshort
    exact hbreak.bind hfirst ((ih hreads hshort).bind_left _)

end MariaClient.Wire
