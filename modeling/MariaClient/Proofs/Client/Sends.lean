import MariaClient.Client.Exchange
import MariaClient.Proofs.Client.Receives

/-!
# What a step sends

A client sends payloads in frames, and `messages` joins the frames again.  `Sends x ms c` says that
from the channel `c` on the step `x` sends exactly the payloads `ms`.  Steps that only read are
*silent*.  What a step reads is told by the packets of the stream, which do not depend on what was
sent before.
-/

namespace MariaClient

open Wire

/-! ## The payloads of frames -/

/-- The payloads that travel in frames.  A full frame is joined with the next one. -/
def messages : List Frame → List Bytes
  | [] => []
  | f :: fs =>
    if f.payload.length < maxPayload then f.payload :: messages fs
    else match messages fs with
      | [] => [f.payload]
      | m :: ms => (f.payload ++ m) :: ms

theorem messages_framing {seq : UInt8} {payload : Bytes} {fs : List Frame}
    (h : Framing seq payload fs) (more : List Frame) :
    messages (fs ++ more) = payload :: messages more := by
  induction h with
  | last hlen => rw [List.singleton_append, messages, if_pos hlen]
  | full hlen _ ih =>
    rw [List.cons_append, messages, if_neg (Nat.not_lt.2 (Nat.le_of_eq hlen.symm)), ih]

/-- Joining undoes cutting, whatever is sent afterwards. -/
theorem messages_frames (seq : UInt8) (payload : Bytes) (fs : List Frame) :
    messages (frames seq payload ++ fs) = payload :: messages fs :=
  messages_framing (framing_frames seq payload) fs

namespace Channel

variable {α β : Type}

/-! ## Silent steps -/

/-- What the other side of a channel cannot change: what was sent, and whether others can read
it. -/
def own (c : Channel) : List Frame × Bool :=
  (c.sent, c.secure)

/-- A step that sends nothing. -/
def Silent (x : Attempt Channel α) : Prop :=
  ∀ c, (x c).2.own = c.own

theorem Silent.own_eq {x : Attempt Channel α} (hx : Silent x) {c d : Channel}
    {r : Except Error α} (h : x c = (r, d)) : d.own = c.own := by
  simpa [h] using hx c

theorem silent_ofExcept (r : Except Error α) : Silent (Attempt.ofExcept r) :=
  fun _ ↦ rfl

theorem silent_pure (a : α) : Silent (pure a) :=
  fun _ ↦ rfl

theorem silent_fail (e : Error) : Silent (Attempt.fail (α := α) e) :=
  fun _ ↦ rfl

theorem Silent.bind {x : Attempt Channel α} {f : α → Attempt Channel β} (hx : Silent x)
    (hf : ∀ a, Silent (f a)) : Silent (x >>= f) := by
  intro c
  rcases hr : x c with ⟨e | a, d⟩
  · rw [Attempt.bind_apply_error hr]
    exact hx.own_eq hr
  · rw [Attempt.bind_apply_ok hr, hf a d]
    exact hx.own_eq hr

theorem Silent.ite {p : Prop} [Decidable p] {x y : Attempt Channel α} (hx : Silent x)
    (hy : Silent y) : Silent (if p then x else y) := by
  by_cases h : p
  · rwa [if_pos h]
  · rwa [if_neg h]

theorem silent_readFrame : Silent readFrame := by
  intro c
  unfold readFrame
  split
  · dsimp only
    split
    · rfl
    · rfl
  · rfl

theorem silent_readPacket : Silent readPacket := by
  intro c
  fun_induction readPacket c with
  | case1 c e d h => exact silent_readFrame.own_eq h
  | case2 c payload d h => exact silent_readFrame.own_eq h
  | case3 c payload d h _ more d' e ih =>
    rw [e] at ih
    exact ih.trans (silent_readFrame.own_eq h)
  | case4 c payload d h _ e' d' e ih =>
    rw [e] at ih
    exact ih.trans (silent_readFrame.own_eq h)

theorem silent_readChecked : Silent readChecked :=
  silent_readPacket.bind fun _ ↦ (silent_ofExcept _).bind fun _ ↦ silent_pure _

theorem silent_readDefinitions (count : Nat) : Silent (readDefinitions count) := by
  induction count with
  | zero => exact silent_pure _
  | succ count ih =>
    exact silent_readPacket.bind fun _ ↦ (silent_ofExcept _).bind fun _ ↦
      ih.bind fun _ ↦ silent_pure _

theorem silent_readColumns (count : Nat) : Silent (readColumns count) :=
  (silent_readDefinitions count).bind fun _ ↦
    .ite (silent_pure _) (silent_readChecked.bind fun _ ↦ silent_pure _)

theorem silent_readRows : Silent readRows := by
  intro c
  fun_induction readRows c with
  | case1 c e d h => exact silent_readPacket.own_eq h
  | case2 c packet d h => exact silent_readPacket.own_eq h
  | case3 c packet d h => exact silent_readPacket.own_eq h
  | case4 c packet d h _ _ rows status d' e ih =>
    rw [e] at ih
    exact ih.trans (silent_readPacket.own_eq h)
  | case5 c packet d h _ _ e' d' e ih =>
    rw [e] at ih
    exact ih.trans (silent_readPacket.own_eq h)

theorem silent_readReply : Silent readReply := by
  refine silent_readPacket.bind fun first ↦ (silent_ofExcept _).bind fun _ ↦ ?_
  refine .ite ((silent_ofExcept _).bind fun _ ↦ silent_pure _) (.ite (silent_fail _) ?_)
  exact (silent_ofExcept _).bind fun _ ↦ (silent_readColumns _).bind fun _ ↦
    silent_readRows.bind fun _ ↦ silent_pure _

theorem silent_readReplies (read : Reply → Except Error α) : Silent (readReplies read) := by
  have hreply : Silent (readReplyAs read) :=
    silent_readReply.bind fun _ ↦ (silent_ofExcept _).bind fun _ ↦ silent_pure _
  intro c
  fun_induction readReplies read c with
  | case1 c e d h => exact hreply.own_eq h
  | case2 c reply a d h _ more d' e ih =>
    rw [e] at ih
    exact ih.trans (hreply.own_eq h)
  | case3 c reply a d h _ e' d' e ih =>
    rw [e] at ih
    exact ih.trans (hreply.own_eq h)
  | case4 c reply a d h => exact hreply.own_eq h

/-! ## The packets of a stream -/

theorem readFrame_congr {c c' d : Channel} {payload : Bytes} (hc : c'.incoming = c.incoming)
    (h : readFrame c = (.ok payload, d)) :
    ∃ d', readFrame c' = (.ok payload, d') ∧ d'.incoming = d.incoming := by
  unfold readFrame at h ⊢
  rw [hc]
  split at h
  · dsimp only at h ⊢
    split at h
    · cases h
    next hlen =>
      cases h
      rw [if_neg hlen]
      exact ⟨_, rfl, rfl⟩
  · cases h

/-- Which packet is read depends on the stream only. -/
theorem readPacket_congr {c c' d : Channel} {packet : Bytes} (hc : c'.incoming = c.incoming)
    (h : readPacket c = (.ok packet, d)) :
    ∃ d', readPacket c' = (.ok packet, d') ∧ d'.incoming = d.incoming := by
  fun_induction readPacket c generalizing c' packet d with
  | case1 c e d' hf => cases h
  | case2 c payload d' hf hlen =>
    cases h
    obtain ⟨d₁, hf', hd⟩ := readFrame_congr hc hf
    exact ⟨d₁, readPacket_of_short hf' hlen, hd⟩
  | case3 c payload d' hf hlen more d'' hr ih =>
    cases h
    obtain ⟨d₁, hf', hd⟩ := readFrame_congr hc hf
    obtain ⟨d₂, hr', hd₂⟩ := ih hd hr
    exact ⟨d₂, readPacket_of_full hf' hlen hr', hd₂⟩
  | case4 c payload d' hf hlen e d'' hr ih => cases h

/-- All packets that can be read from a stream. -/
def packets (bs : Bytes) : List Bytes :=
  match _h : readPacket { incoming := bs } with
  | (.ok packet, d) => packet :: packets d.incoming
  | (.error _, _) => []
termination_by bs.length
decreasing_by exact readPacket_progresses _ _ _ _h

theorem packets_of_ok {c d : Channel} {packet : Bytes} (h : readPacket c = (.ok packet, d)) :
    packets c.incoming = packet :: packets d.incoming := by
  have hfresh : ({ incoming := c.incoming } : Channel).incoming = c.incoming := rfl
  obtain ⟨d', h', hd⟩ := readPacket_congr hfresh h
  rw [packets]
  split
  · next h'' =>
    rw [h'] at h''
    cases h''
    rw [hd]
  · next h'' =>
    rw [h'] at h''
    cases h''

theorem packets_of_error {c d : Channel} {e : Error} (h : readPacket c = (.error e, d)) :
    packets c.incoming = [] := by
  rw [packets]
  split
  · next h' =>
    have hfresh : c.incoming = ({ incoming := c.incoming } : Channel).incoming := rfl
    obtain ⟨_, h'', -⟩ := readPacket_congr hfresh h'
    rw [h] at h''
    cases h''
  · rfl

/-- The packets of a stream are those that were framed for it. -/
theorem packets_framed {ps : List Bytes} {bs : Bytes} (h : Framed ps bs) : packets bs = ps := by
  induction h with
  | nil =>
    have hempty : readPacket { incoming := [] } =
        (.error (.io .endOfStream), { incoming := [], ranOut := some 0 }) := by
      rw [readPacket]
      rfl
    exact packets_of_error hempty
  | @cons seq packet ps bs _ ih =>
    have hfront : ({ incoming := framed seq packet ++ bs } : Channel).incoming =
      framed seq packet ++ bs := rfl
    exact (packets_of_ok (readPacket_framed hfront)).trans (congrArg (packet :: ·) ih)

/-! ## Steps that send -/

/-- From a channel on a step sends these payloads and no others, whatever is sent after it. -/
def Sends (x : Attempt Channel α) (ms : List Bytes) (c : Channel) : Prop :=
  ∃ fs, (x c).2.sent = c.sent ++ fs ∧ ∀ more, messages (fs ++ more) = ms ++ messages more

theorem sends_nil_of_eq {x : Attempt Channel α} {c d : Channel} {r : Except Error α}
    (hx : x c = (r, d)) (hd : d.sent = c.sent) : Sends x [] c := by
  refine ⟨[], ?_, fun _ ↦ rfl⟩
  rw [hx, List.append_nil]
  exact hd

theorem Silent.sends {x : Attempt Channel α} (hx : Silent x) (c : Channel) : Sends x [] c :=
  sends_nil_of_eq rfl (congrArg Prod.fst (hx c))

/-- A step that goes on from a channel on which nothing else was sent. -/
theorem Sends.of_eq {x y : Attempt Channel α} {ms : List Bytes} {c d : Channel} (h : Sends y ms d)
    (hx : x c = y d) (hd : d.sent = c.sent) : Sends x ms c := by
  obtain ⟨fs, hfs, hms⟩ := h
  refine ⟨fs, ?_, hms⟩
  rw [hx, hfs, hd]

/-- A step that sends a payload first. -/
theorem Sends.of_write {x y : Attempt Channel α} {payload : Bytes} {ms : List Bytes}
    {c d : Channel} (h : Sends y ms (d.write payload)) (hx : x c = y (d.write payload))
    (hd : d.sent = c.sent) : Sends x (payload :: ms) c := by
  obtain ⟨fs, hfs, hms⟩ := h
  refine ⟨frames d.seq payload ++ fs, ?_, fun more ↦ ?_⟩
  · rw [hx, hfs, ← List.append_assoc, ← hd]
    rfl
  · rw [List.append_assoc, messages_frames, hms]
    rfl

/-- Two steps, one after the other. -/
theorem Sends.bind {x : Attempt Channel α} {f : α → Attempt Channel β} {ms ns : List Bytes}
    {c d : Channel} {a : α} (hx : Sends x ms c) (h : x c = (.ok a, d)) (hf : Sends (f a) ns d) :
    Sends (x >>= f) (ms ++ ns) c := by
  obtain ⟨fs, hfs, hms⟩ := hx
  obtain ⟨gs, hgs, hns⟩ := hf
  refine ⟨fs ++ gs, ?_, fun more ↦ ?_⟩
  · rw [Attempt.bind_apply_ok h, hgs, ← List.append_assoc, ← hfs, h]
  · rw [List.append_assoc, hms, hns, List.append_assoc]

/-- A step that fails keeps what comes after it from sending anything. -/
theorem Sends.bind_error {x : Attempt Channel α} {f : α → Attempt Channel β} {ms : List Bytes}
    {c d : Channel} {e : Error} (hx : Sends x ms c) (h : x c = (.error e, d)) :
    Sends (x >>= f) ms c := by
  obtain ⟨fs, hfs, hms⟩ := hx
  refine ⟨fs, ?_, hms⟩
  rw [Attempt.bind_apply_error h, ← hfs, h]

theorem Sends.bind_silent {x : Attempt Channel α} {f : α → Attempt Channel β} {ms : List Bytes}
    {c : Channel} (hx : Sends x ms c) (hf : ∀ a, Silent (f a)) : Sends (x >>= f) ms c := by
  rcases h : x c with ⟨e | a, d⟩
  · exact hx.bind_error h
  · rw [← List.append_nil ms]
    exact hx.bind h ((hf a).sends d)

/-- All that was sent on a channel that was new. -/
theorem Sends.messages_sent {x : Attempt Channel α} {ms : List Bytes} {c : Channel}
    (h : Sends x ms c) (hc : c.sent = []) : messages (x c).2.sent = ms := by
  obtain ⟨fs, hfs, hms⟩ := h
  have hnil := hms []
  rw [List.append_nil] at hnil
  rw [hfs, hc, List.nil_append, hnil]
  exact List.append_nil ms

end Channel

end MariaClient
