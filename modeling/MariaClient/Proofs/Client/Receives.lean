import MariaClient.Proofs.Client.Framing
import MariaClient.Proofs.Wire.Reads

/-!
# What a step takes from the stream

A server sends packets in frames.  `Framed packets bs` says that the bytes `bs` are the frames of
the packets, and `Receives x packets r` that a step on a channel takes exactly these frames, leaves
whatever follows them, and gives `r`, be that a value or an error.  Like `Reads` it is closed under
sequencing, so that a step which takes several packets is put together from steps that take one.
-/

namespace MariaClient

open Wire

/-! ## Frames on the stream -/

/-- The bytes of a packet that begins with the frame of the given number. -/
def framed (seq : UInt8) (packet : Bytes) : Bytes :=
  (frames seq packet).flatMap Frame.encode

/-- The bytes are the frames of some packets, whatever the numbers of their first frames. -/
inductive Framed : List Bytes → Bytes → Prop
  | nil : Framed [] []
  | cons (seq : UInt8) (packet : Bytes) {packets : List Bytes} {bs : Bytes} :
      Framed packets bs → Framed (packet :: packets) (framed seq packet ++ bs)

/-- The frames of more packets come behind those of the first. -/
theorem Framed.of_append {ps qs : List Bytes} {bs : Bytes} (h : Framed (ps ++ qs) bs) :
    ∃ bs₁ bs₂, Framed ps bs₁ ∧ Framed qs bs₂ ∧ bs = bs₁ ++ bs₂ := by
  induction ps generalizing bs with
  | nil => exact ⟨[], bs, .nil, h, rfl⟩
  | cons p ps ih =>
    cases h with
    | cons seq _ h =>
      obtain ⟨bs₁, bs₂, h₁, h₂, rfl⟩ := ih h
      exact ⟨framed seq p ++ bs₁, bs₂, .cons seq p h₁, h₂, by rw [List.append_assoc]⟩

/-- The frames of some packets, numbered on from `seq`, as a server sends them. -/
def stream : UInt8 → List Bytes → Bytes
  | _, [] => []
  | seq, p :: ps => framed seq p ++ stream (seq + UInt8.ofNat (frames seq p).length) ps

theorem framed_stream (seq : UInt8) (packets : List Bytes) :
    Framed packets (stream seq packets) := by
  induction packets generalizing seq with
  | nil => exact .nil
  | cons p ps ih => exact .cons seq p (ih _)

namespace Channel

theorem readPacket_framed {seq : UInt8} {payload rest : Bytes} {c : Channel}
    (h : c.incoming = framed seq payload ++ rest) :
    readPacket c = (.ok payload, { c with
      incoming := rest
      seq := seq + UInt8.ofNat (frames seq payload).length }) :=
  readPacket_framing (framing_frames seq payload) h

/-! ## Steps that take whole packets -/

variable {α β : Type}

/-- The step takes exactly the frames of the packets, whatever follows them, and gives `r`. -/
def Receives (x : Attempt Channel α) (packets : List Bytes) (r : Except Error α) : Prop :=
  ∀ bs c rest, Framed packets bs → c.incoming = bs ++ rest →
    (x c).1 = r ∧ (x c).2.incoming = rest

theorem receives_ofExcept (r : Except Error α) : Receives (Attempt.ofExcept r) [] r := by
  intro bs c rest hf h
  cases hf
  exact ⟨rfl, h⟩

theorem receives_ofExcept_of_eq {r r' : Except Error α} (h : r = r') :
    Receives (Attempt.ofExcept r) [] r' :=
  h ▸ receives_ofExcept r

theorem receives_pure (a : α) : Receives (pure a) [] (.ok a) :=
  receives_ofExcept (.ok a)

theorem receives_readPacket (packet : Bytes) : Receives readPacket [packet] (.ok packet) := by
  intro bs c rest hf h
  cases hf with
  | cons seq _ hf =>
    cases hf
    rw [List.append_nil] at h
    have hr := readPacket_framed h
    exact ⟨by rw [hr], by rw [hr]⟩

theorem Receives.bind {x : Attempt Channel α} {f : α → Attempt Channel β} {ps qs : List Bytes}
    {a : α} {r : Except Error β} (hx : Receives x ps (.ok a)) (hf : Receives (f a) qs r) :
    Receives (x >>= f) (ps ++ qs) r := by
  intro bs c rest hfr h
  obtain ⟨bs₁, bs₂, h₁, h₂, rfl⟩ := hfr.of_append
  rw [List.append_assoc] at h
  obtain ⟨hr, hrest⟩ := hx _ c _ h₁ h
  rw [Attempt.bind_apply_ok (Prod.ext hr rfl)]
  exact hf _ _ _ h₂ hrest

/-- A step that fails ends the whole and takes nothing more. -/
theorem Receives.bind_error {x : Attempt Channel α} {ps : List Bytes} {e : Error}
    (hx : Receives x ps (.error e)) (f : α → Attempt Channel β) :
    Receives (x >>= f) ps (.error e) := by
  intro bs c rest hfr h
  obtain ⟨hr, hrest⟩ := hx _ c _ hfr h
  rw [Attempt.bind_apply_error (Prod.ext hr rfl)]
  exact ⟨rfl, hrest⟩

theorem Receives.map {x : Attempt Channel α} {ps : List Bytes} {r : Except Error α}
    (hx : Receives x ps r) (f : α → β) : Receives (x >>= fun a ↦ pure (f a)) ps (r.map f) := by
  cases r with
  | error e => exact hx.bind_error _
  | ok a =>
    rw [← List.append_nil ps]
    exact hx.bind (receives_pure (f a))

/-- Sending takes nothing. -/
theorem receives_update {f : Channel → Channel} (hf : ∀ c, (f c).incoming = c.incoming) :
    Receives (Attempt.update f) [] (.ok ()) := by
  intro bs c rest hfr h
  cases hfr
  exact ⟨rfl, (hf c).trans h⟩

end Channel

end MariaClient
