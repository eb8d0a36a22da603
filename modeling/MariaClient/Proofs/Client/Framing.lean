import MariaClient.Client.Channel

/-!
# Payloads of any size

A payload travels in frames that are full but for the last one, which is not and so may have to be
empty.  `Framing seq payload fs` says that `fs` are such frames, numbered on from `seq`.  The writer
of a channel makes them (`framing_frames`), and a reader takes exactly them and joins the payload
again (`readPacket_write`).
-/

namespace MariaClient

namespace Wire

/-- The frames of a payload, numbered on from `seq`. -/
inductive Framing : UInt8 → Bytes → List Frame → Prop
  | last {seq : UInt8} {payload : Bytes} (hlen : payload.length < maxPayload) :
    Framing seq payload [⟨seq, payload⟩]
  | full {seq : UInt8} {piece payload : Bytes} {fs : List Frame}
    (hlen : piece.length = maxPayload) (h : Framing (seq + 1) payload fs) :
    Framing seq (piece ++ payload) (⟨seq, piece⟩ :: fs)

/-- A payload is cut into its frames.  The induction is on the number of the full ones. -/
theorem framing_framesUpTo (count : Nat) (seq : UInt8) {payload : Bytes}
    (hcount : payload.length / maxPayload = count) :
    Framing seq payload (framesUpTo count seq payload) := by
  induction count generalizing seq payload with
  | zero => exact .last (by simpa [maxPayload] using hcount)
  | succ count ih =>
    have hlong : maxPayload ≤ payload.length := Nat.not_lt.mp fun hlt ↦ by
      rw [Nat.div_eq_of_lt hlt] at hcount
      omega
    have hleft : (payload.drop maxPayload).length / maxPayload = count := by
      rw [List.length_drop]
      rw [Nat.div_eq_sub_div (by decide) hlong] at hcount
      omega
    have hcut := Framing.full (List.length_take_of_le hlong) (ih (seq + 1) hleft)
    rw [List.take_append_drop] at hcut
    rwa [framesUpTo, if_neg (Nat.not_lt.2 hlong)]

theorem framing_frames (seq : UInt8) (payload : Bytes) :
    Framing seq payload (frames seq payload) :=
  framing_framesUpTo _ seq rfl

namespace Framing

variable {seq : UInt8} {payload : Bytes} {fs : List Frame}

/-- The frames carry the payload. -/
theorem flatMap_payload (h : Framing seq payload fs) : fs.flatMap Frame.payload = payload := by
  induction h with
  | last => exact List.flatMap_singleton _ _
  | full _ _ ih => rw [List.flatMap_cons, ih]

/-- All frames are full but the last one. -/
theorem eq_append (h : Framing seq payload fs) :
    ∃ full last, fs = full ++ [last] ∧ (∀ f ∈ full, f.payload.length = maxPayload) ∧
      last.payload.length < maxPayload := by
  induction h with
  | last hlen => exact ⟨[], _, rfl, nofun, hlen⟩
  | full hlen _ ih =>
    obtain ⟨full, last, rfl, hfull, hlast⟩ := ih
    exact ⟨_ :: full, last, rfl, List.forall_mem_cons.2 ⟨hlen, hfull⟩, hlast⟩

theorem numbered_succ (seq : UInt8) (i : Nat) :
    seq + 1 + UInt8.ofNat i = seq + UInt8.ofNat (i + 1) := by
  rw [UInt8.ofNat_add, UInt8.add_assoc, UInt8.add_comm 1]
  rfl

/-- The frames are numbered one after the other, and zero comes after 255. -/
theorem seq_of_getElem? (h : Framing seq payload fs) {i : Nat} {f : Frame}
    (hf : fs[i]? = some f) : f.seq = seq + UInt8.ofNat i := by
  induction h generalizing i with
  | last =>
    cases i with
    | zero =>
      cases hf
      exact (UInt8.add_zero _).symm
    | succ i => cases hf
  | full _ _ ih =>
    cases i with
    | zero =>
      cases hf
      exact (UInt8.add_zero _).symm
    | succ i => exact (ih hf).trans (numbered_succ _ i)

end Framing

end Wire

/-! ## Reading frames -/

open Wire

namespace Channel

/-- The frame at the front of the stream is taken whole. -/
theorem readFrame_frame {seq : UInt8} {payload rest : Bytes} {c : Channel}
    (hlen : payload.length ≤ maxPayload) (h : c.incoming = frame seq payload ++ rest) :
    readFrame c = (.ok payload, { c with incoming := rest, seq := seq + 1 }) := by
  have hle : ofLE (toLE 3 payload.length) = payload.length := by
    rw [ofLE_toLE, Nat.mod_eq_of_lt (by simp only [maxPayload] at hlen; omega)]
  simp only [frame, toLE, List.cons_append, List.nil_append] at h
  simp only [toLE] at hle
  simp only [readFrame, h, hle, List.take_left, Nat.lt_irrefl, if_false, List.drop_left]

theorem readPacket_of_short {c d : Channel} {payload : Bytes} (h : readFrame c = (.ok payload, d))
    (hlen : payload.length < maxPayload) : readPacket c = (.ok payload, d) := by
  rw [readPacket]
  split
  · next h' => rw [h] at h'; cases h'
  · next h' =>
    rw [h] at h'
    cases h'
    rw [if_pos hlen]

theorem readPacket_of_full {c d e : Channel} {payload more : Bytes}
    (h : readFrame c = (.ok payload, d)) (hlen : ¬ payload.length < maxPayload)
    (h' : readPacket d = (.ok more, e)) : readPacket c = (.ok (payload ++ more), e) := by
  rw [readPacket]
  split
  · next h' => rw [h] at h'; cases h'
  · next h'' =>
    rw [h] at h''
    cases h''
    rw [if_neg hlen, h']

/-- A packet is joined from its frames, however many there are, and the next frame to send is
numbered on from the last of them. -/
theorem readPacket_framing {seq : UInt8} {payload rest : Bytes} {fs : List Frame} {c : Channel}
    (h : Framing seq payload fs) (hc : c.incoming = fs.flatMap Frame.encode ++ rest) :
    readPacket c =
      (.ok payload, { c with incoming := rest, seq := seq + UInt8.ofNat fs.length }) := by
  induction h generalizing c with
  | last hlen =>
    rw [List.flatMap_singleton] at hc
    exact readPacket_of_short (readFrame_frame (Nat.le_of_lt hlen) hc) hlen
  | @full seq piece payload fs hlen _ ih =>
    rw [List.flatMap_cons, List.append_assoc] at hc
    have hframe := readFrame_frame (Nat.le_of_eq hlen) hc
    have hmore := @ih { c with incoming := fs.flatMap Frame.encode ++ rest, seq := seq + 1 } rfl
    rw [Framing.numbered_succ] at hmore
    exact readPacket_of_full hframe (Nat.not_lt.2 (Nat.le_of_eq hlen.symm)) hmore

/-- A payload of any size is sent in frames that carry it, all of them full but the last, which is
not, numbered one after the other from the number of the sender on.  Whoever reads these frames
takes the payload, leaves what follows them and goes on with the number after the last. -/
theorem readPacket_write (payload rest : Bytes) (sender receiver : Channel) :
    ∃ (full : List Frame) (last : Frame),
      sender.write payload =
        { sender with sent := sender.sent ++ (full ++ [last]), seq := last.seq + 1 } ∧
      (full ++ [last]).flatMap Frame.payload = payload ∧
      (∀ f ∈ full, f.payload.length = maxPayload) ∧ last.payload.length < maxPayload ∧
      (∀ i f, (full ++ [last])[i]? = some f → f.seq = sender.seq + UInt8.ofNat i) ∧
      readPacket { receiver with incoming := (full ++ [last]).flatMap Frame.encode ++ rest } =
        (.ok payload, { receiver with incoming := rest, seq := last.seq + 1 }) := by
  have hframing := framing_frames sender.seq payload
  obtain ⟨full, last, hframes, hfull, hlast⟩ := hframing.eq_append
  rw [hframes] at hframing
  have hnumber : last.seq = sender.seq + UInt8.ofNat full.length :=
    hframing.seq_of_getElem? List.getElem?_concat_length
  have hnext : sender.seq + UInt8.ofNat (full ++ [last]).length = last.seq + 1 := by
    rw [hnumber, List.length_append, List.length_singleton, UInt8.ofNat_add, UInt8.add_assoc]
    rfl
  refine ⟨full, last, ?_, hframing.flatMap_payload, hfull, hlast,
    fun i f ↦ hframing.seq_of_getElem?, ?_⟩
  · rw [write, hframes, hnext]
  · rw [readPacket_framing hframing rfl, hnext]

end Channel

end MariaClient
