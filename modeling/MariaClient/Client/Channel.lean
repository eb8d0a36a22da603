import MariaClient.Attempt
import MariaClient.Wire.Command

/-!
# Channels

A channel to a server: the bytes that the server is going to send and the frames that were sent
to it.  Payloads travel in frames; one that fills a frame goes on in the next.  A failed read
loses what was left of the stream, and no step makes the stream longer.
-/

namespace MariaClient

open Wire

/-- What a server sends.  A stream that stalls stays open and silent after its bytes; others
end. -/
structure Stream where
  bytes : Bytes := []
  stalls : Bool := false
  deriving DecidableEq, Repr

/-- The two ends of a connection.  `seq` numbers the next frame to send.  A channel is secure if
nobody else can read what is sent.  `ranOut` is the number of frames that had been sent when the
stream first ran out. -/
structure Channel where
  incoming : Bytes
  stalls : Bool := false
  secure : Bool := false
  readTimeout : Option Nat := none
  connectTimeout : Option Nat := none
  seq : UInt8 := 0
  sent : List Frame := []
  ranOut : Option Nat := none
  deriving DecidableEq, Repr

namespace Channel

variable {α β : Type}

/-! ## Sending -/

/-- Sends a payload in frames that are numbered on from the last one. -/
def write (payload : Bytes) (c : Channel) : Channel :=
  let new := frames c.seq payload
  { c with sent := c.sent ++ new, seq := c.seq + UInt8.ofNat new.length }

/-- Sends a command, whose frames are numbered from zero. -/
def sendCommand (payload : Bytes) (c : Channel) : Channel :=
  { c with seq := 0 }.write payload

@[simp] theorem incoming_write (payload : Bytes) (c : Channel) :
    (c.write payload).incoming = c.incoming := rfl

@[simp] theorem incoming_sendCommand (payload : Bytes) (c : Channel) :
    (c.sendCommand payload).incoming = c.incoming := rfl

/-! ## The end of the stream -/

/-- The error of a read past the end of the stream.  On a silent channel the shorter limit of time
runs out first. -/
def starvation (c : Channel) : Error :=
  if c.stalls then
    match c.readTimeout, c.connectTimeout with
    | some r, some t =>
      .io (if r ≤ t then .timedOut .read r else .timedOut .connect t)
    | some r, none => .io (.timedOut .read r)
    | none, some t => .io (.timedOut .connect t)
    | none, none => .io .endOfStream
  else .io .endOfStream

/-- Fails at the end of the stream. -/
def starve : Attempt Channel α :=
  fun c ↦ (.error c.starvation, { c with incoming := [], ranOut := c.ranOut.or c.sent.length })

/-! ## Steps that do not make the stream longer -/

/-- A step leaves no more of the stream than there was. -/
def Consumes (x : Attempt Channel α) : Prop :=
  ∀ c, (x c).2.incoming.length ≤ c.incoming.length

/-- A step that succeeds leaves less of the stream than there was. -/
def Progresses (x : Attempt Channel α) : Prop :=
  ∀ c a d, x c = (.ok a, d) → d.incoming.length < c.incoming.length

theorem Consumes.of_ok {x : Attempt Channel α} (h : Consumes x) {c d : Channel} {a : α}
    (e : x c = (.ok a, d)) : d.incoming.length ≤ c.incoming.length := by
  simpa [e] using h c

theorem consumes_pure (a : α) : Consumes (pure a) :=
  fun _ ↦ Nat.le_refl _

theorem consumes_fail (e : Error) : Consumes (Attempt.fail (α := α) e) :=
  fun _ ↦ Nat.le_refl _

theorem consumes_ofExcept (r : Except Error α) : Consumes (Attempt.ofExcept r) :=
  fun _ ↦ Nat.le_refl _

theorem consumes_starve : Consumes (starve : Attempt Channel α) :=
  fun _ ↦ Nat.zero_le _

theorem Consumes.bind {x : Attempt Channel α} {f : α → Attempt Channel β} (hx : Consumes x)
    (hf : ∀ a, Consumes (f a)) : Consumes (x >>= f) := by
  intro c
  rw [Attempt.bind_apply]
  have h := hx c
  split
  · next a d e => exact Nat.le_trans (hf a d) (by simpa [e] using h)
  · next e' d e => simpa [e] using h

theorem Progresses.bind {x : Attempt Channel α} {f : α → Attempt Channel β} (hx : Progresses x)
    (hf : ∀ a, Consumes (f a)) : Progresses (x >>= f) := by
  intro c b d e
  rw [Attempt.bind_apply] at e
  split at e
  · next a d' e' => exact Nat.lt_of_le_of_lt ((hf a).of_ok e) (hx c a d' e')
  · cases e

/-! ## Receiving -/

/-- Takes the payload of one frame.  The next frame to send has the number after it. -/
def readFrame : Attempt Channel Bytes := fun c ↦
  match c.incoming with
  | a :: b :: d :: seq :: rest =>
    let length := ofLE [a, b, d]
    let payload := rest.take length
    if payload.length < length then starve c
    else (.ok payload, { c with incoming := rest.drop length, seq := seq + 1 })
  | _ => starve c

theorem readFrame_progresses : Progresses readFrame := by
  intro c a d e
  unfold readFrame at e
  split at e
  · next h =>
    dsimp only at e
    split at e
    · cases e
    · cases e
      simp only [h, List.length_cons, List.length_drop]
      omega
  · cases e

theorem readFrame_consumes : Consumes readFrame := by
  intro c
  unfold readFrame
  split
  · next h =>
    dsimp only
    split
    · exact Nat.zero_le _
    · simp only [h, List.length_cons, List.length_drop]
      omega
  · exact Nat.zero_le _

/-- Takes a payload.  Frames of the largest size are joined with the next one. -/
def readPacket : Attempt Channel Bytes := fun c ↦
  match _h : readFrame c with
  | (.error e, d) => (.error e, d)
  | (.ok payload, d) =>
    if payload.length < maxPayload then (.ok payload, d)
    else
      match readPacket d with
      | (.ok more, d) => (.ok (payload ++ more), d)
      | (.error e, d) => (.error e, d)
termination_by c => c.incoming.length
decreasing_by exact readFrame_progresses _ _ _ _h

theorem readPacket_consumes : Consumes readPacket := by
  intro c
  fun_induction readPacket c with
  | case1 c e d h => simpa [h] using readFrame_consumes c
  | case2 c payload d h => exact readFrame_consumes.of_ok h
  | case3 c payload d h _ more d' e ih =>
    exact Nat.le_trans (by simpa [e] using ih) (readFrame_consumes.of_ok h)
  | case4 c payload d h _ e' d' e ih =>
    exact Nat.le_trans (by simpa [e] using ih) (readFrame_consumes.of_ok h)

theorem readPacket_progresses : Progresses readPacket := by
  intro c a d e
  rw [readPacket] at e
  split at e
  · cases e
  · next payload d' h =>
    have hlt := readFrame_progresses _ _ _ h
    split at e
    · cases e
      exact hlt
    · split at e
      · next more d'' h' =>
        cases e
        exact Nat.lt_of_le_of_lt (readPacket_consumes.of_ok h') hlt
      · cases e

end Channel

end MariaClient
