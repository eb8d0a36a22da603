import MariaClient.Auth
import MariaClient.Proofs.Wire.Reads
import MariaClient.Wire.Handshake

/-!
# What a server reads in the answer to its greeting

The answer to a greeting has fields of a fixed length, names that end with a zero byte, a proof
behind one byte for its length, and a database only if the client says so.  A server that takes it
apart gets what the client put in, as long as the proof has at most 255 bytes
(`LoginAnswer.reader_handshakeResponse`).  Digests always do.  A password that is sent as it is may
have more, and the byte for its length then tells only what is left of it.
-/

namespace MariaClient

/-! ## The layout of the answer -/

namespace Wire

/-- Takes a name that ends with a zero byte.  Bytes without a zero byte are refused. -/
def nameReader : Reader String := do
  let left ← Reader.remaining
  if left.contains 0 then return Text.decode (← Reader.nulBytes)
  else Attempt.fail (.protocol .tooShort)

/-- A name with no character of the code zero is read back. -/
theorem reads_name {s : String} (h : Char.ofNat 0 ∉ s.toList) : Reads nameReader (nulText s) s := by
  intro rest
  have hleft : nulText s ++ rest = Text.encode s ++ [0] ++ rest := rfl
  have htake : Reader.nulBytes (Text.encode s ++ [0] ++ rest) = (.ok (Text.encode s), rest) :=
    reads_nulBytes (Text.ne_zero_of_mem_encode h) rest
  have hzero : (Text.encode s ++ [0] ++ rest).contains 0 = true := by simp
  have hremaining (bs : Bytes) : Reader.remaining bs = (.ok bs, bs) := rfl
  rw [hleft, nameReader, Attempt.bind_apply_ok (hremaining _), if_pos hzero,
    Attempt.bind_apply_ok htake, Text.decode_encode]
  rfl

/-- What a server reads in an answer to its greeting. -/
structure LoginAnswer where
  capabilities : Nat
  maxPacket : Nat
  charset : UInt8
  filler : Bytes
  user : String
  proof : Bytes
  database : Option String
  plugin : String
  deriving DecidableEq, Repr

namespace LoginAnswer

/-- Takes the name of the database, if the client says that there is one. -/
def databaseReader (capabilities : Nat) : Reader (Option String) := do
  if hasFlag capabilities Capability.connectWithDb then return some (← nameReader)
  else return none

/-- Takes the answer to a greeting. -/
def reader : Reader LoginAnswer := do
  let capabilities ← Reader.le 4
  let maxPacket ← Reader.le 4
  let charset ← Reader.byte
  let filler ← Reader.bytes 23
  let user ← nameReader
  let length ← Reader.byte
  let proof ← Reader.bytes length.toNat
  let database ← databaseReader capabilities
  let plugin ← nameReader
  return { capabilities, maxPacket, charset, filler, user, proof, database, plugin }

/-- What a client puts in its answer. -/
def of (capabilities : Nat) (user : String) (proof : Bytes) (database : String) (charset : UInt8)
    (plugin : String) : LoginAnswer where
  capabilities
  maxPacket := maxPayload
  charset
  filler := List.replicate 23 0
  user
  proof
  database := if hasFlag capabilities Capability.connectWithDb then some database else none
  plugin

variable {capabilities : Nat} {user database plugin : String} {charset : UInt8} {proof : Bytes}

theorem reads_database (h : Char.ofNat 0 ∉ database.toList) :
    Reads (databaseReader capabilities)
      (if hasFlag capabilities Capability.connectWithDb then nulText database else [])
      (if hasFlag capabilities Capability.connectWithDb then some database else none) := by
  rw [databaseReader]
  split
  · exact (reads_name h).map some
  · exact .pure none

theorem handshakeResponse_eq :
    handshakeResponse capabilities user proof database charset plugin =
      toLE 4 capabilities ++ (toLE 4 maxPayload ++ ([charset] ++ (List.replicate 23 0 ++
        (nulText user ++ ([UInt8.ofNat proof.length] ++ (proof ++
          ((if hasFlag capabilities Capability.connectWithDb then nulText database else []) ++
            nulText plugin))))))) := by
  simp only [handshakeResponse, clientHeader, List.append_assoc, List.cons_append, List.nil_append]

/-- A proof of at most 255 bytes is read back with everything around it. -/
theorem reads_handshakeResponse (hcapabilities : capabilities < 2 ^ 32)
    (huser : Char.ofNat 0 ∉ user.toList) (hdatabase : Char.ofNat 0 ∉ database.toList)
    (hplugin : Char.ofNat 0 ∉ plugin.toList) (hproof : proof.length < 256) :
    Reads reader (handshakeResponse capabilities user proof database charset plugin)
      (of capabilities user proof database charset plugin) := by
  rw [handshakeResponse_eq]
  refine (reads_le hcapabilities).bind <| (reads_le (by decide)).bind <|
    (reads_byte charset).bind <| (reads_bytes (by rw [List.length_replicate])).bind <|
      (reads_name huser).bind <| (reads_byte _).bind <|
        (reads_bytes (UInt8.toNat_ofNat_of_lt' hproof).symm).bind <|
          (reads_database hdatabase).bind <| (reads_name hplugin).map _

theorem length_of_bytes {n : Nat} {s t bs : Bytes} (h : Reader.bytes n s = (.ok bs, t)) :
    bs.length = n := by
  rw [Reader.bytes] at h
  split at h
  next => cases h
  next hlength =>
    cases h
    exact List.length_take_of_le (Nat.not_lt.1 hlength)

/-- The proof that a server reads has no more bytes than one byte can tell. -/
theorem length_proof_lt {packet rest : Bytes} {answer : LoginAnswer}
    (h : reader packet = (.ok answer, rest)) : answer.proof.length < 256 := by
  obtain ⟨capabilities, s₁, -, h⟩ := Attempt.of_bind_ok h
  obtain ⟨maxPacket, s₂, -, h⟩ := Attempt.of_bind_ok h
  obtain ⟨charset, s₃, -, h⟩ := Attempt.of_bind_ok h
  obtain ⟨filler, s₄, -, h⟩ := Attempt.of_bind_ok h
  obtain ⟨user, s₅, -, h⟩ := Attempt.of_bind_ok h
  obtain ⟨length, s₆, -, h⟩ := Attempt.of_bind_ok h
  obtain ⟨proof, s₇, hproof, h⟩ := Attempt.of_bind_ok h
  obtain ⟨database, s₈, -, h⟩ := Attempt.of_bind_ok h
  obtain ⟨plugin, s₉, -, h⟩ := Attempt.of_bind_ok h
  cases h
  rw [length_of_bytes hproof]
  exact length.toNat_lt

end LoginAnswer

end Wire

/-! ## Proofs -/

namespace Digest

open Wire

variable {α ω : Type}

theorem length_foldl {f : List ω → α → List ω} (h : ∀ state a, (f state a).length = state.length)
    (as : List α) (state : List ω) : (as.foldl f state).length = state.length := by
  induction as generalizing state with
  | nil => rfl
  | cons a as ih => rw [List.foldl_cons, ih, h]

theorem length_flatMap_wordBytes (ws : List UInt32) :
    (ws.flatMap wordBytes).length = 4 * ws.length := by
  induction ws with
  | nil => rfl
  | cons w ws ih =>
    rw [List.flatMap_cons, List.length_append, ih, List.length_cons, Nat.mul_succ, Nat.add_comm]
    rfl

theorem length_xorBytes {a b : Bytes} (h : a.length = b.length) :
    (xorBytes a b).length = a.length := by
  rw [xorBytes, List.length_zipWith, h, Nat.min_self]

/-- A digest has as many words as the state before the first block. -/
theorem length_addState [Add ω] {f : List ω → α → List ω}
    (h : ∀ state a, (f state a).length = state.length) (as : List α) (state : List ω) :
    (addState state (as.foldl f state)).length = state.length := by
  rw [addState, List.length_zipWith, length_foldl h, Nat.min_self]

theorem Sha1.length_digest (message : Bytes) : (digest message).length = 20 := by
  have hround (state : List UInt32) (step : UInt32 × Nat) :
      (round state step).length = state.length := by
    unfold round
    split
    · rfl
    · rfl
  have hcompress (state block : List UInt32) : (compress state block).length = state.length :=
    length_addState hround _ state
  rw [digest, length_flatMap_wordBytes, length_foldl hcompress]
  rfl

theorem Sha256.length_digest (message : Bytes) : (digest message).length = 32 := by
  have hround (state : List UInt32) (step : UInt32 × UInt32) :
      (round state step).length = state.length := by
    unfold round
    split
    · rfl
    · rfl
  have hcompress (state block : List UInt32) : (compress state block).length = state.length :=
    length_addState hround _ state
  rw [digest, length_flatMap_wordBytes, length_foldl hcompress]
  rfl

end Digest

namespace Auth

open Wire Digest

theorem length_nativeProof (password scramble : Bytes) :
    (nativeProof password scramble).length = 20 := by
  rw [nativeProof, length_xorBytes (by rw [Sha1.length_digest, Sha1.length_digest]),
    Sha1.length_digest]

theorem length_sha2Proof (password scramble : Bytes) :
    (sha2Proof password scramble).length = 32 := by
  rw [sha2Proof, length_xorBytes (by rw [Sha256.length_digest, Sha256.length_digest]),
    Sha256.length_digest]

/-- The proofs of a password are short, except for the one that is the password itself. -/
theorem length_proof_lt_iff {plugin password : String} {scramble proof : Bytes}
    (h : Auth.proof plugin password scramble = .ok proof) :
    proof.length < 256 ↔ (plugin = clearPlugin → (Text.encode password).length < 255) := by
  rw [Auth.proof] at h
  split at h
  next hempty =>
    cases h
    subst hempty
    exact iff_of_true (by decide) fun _ ↦ by decide
  split at h
  next hnative =>
    cases h
    rw [length_nativeProof]
    refine iff_of_true (by decide) fun hclear ↦ ?_
    rcases hnative with hnative | hnative
    · exact absurd (hnative.symm.trans hclear) (by decide)
    · exact absurd (hnative.symm.trans hclear) (by decide)
  split at h
  next hsha2 =>
    cases h
    rw [length_sha2Proof]
    exact iff_of_true (by decide) fun hclear ↦ absurd (hsha2.symm.trans hclear) (by decide)
  split at h
  next hclear =>
    cases h
    rw [clearProof, List.length_append, List.length_singleton]
    exact ⟨fun hlt _ ↦ Nat.lt_of_succ_lt_succ hlt, fun hlt ↦ Nat.succ_lt_succ (hlt hclear)⟩
  next => cases h

theorem proof_clearPlugin {password : String} (h : password ≠ "") (scramble : Bytes) :
    Auth.proof clearPlugin password scramble = .ok (clearProof (Text.encode password)) := by
  rw [Auth.proof, if_neg h, if_neg (by decide), if_neg (by decide), if_pos rfl]

end Auth

/-! ## Reading the answer back -/

namespace Wire.LoginAnswer

/-- A server reads in an answer to its greeting exactly what the client put in, with no bytes left
over, if and only if the proof has less than 256 bytes.  So it is for every set of abilities, for
all names without a character of the code zero and every character set.  Of the proofs that a
client gives, only a password that is sent as it is may have more, namely from 255 bytes on, with
the zero byte behind it. -/
theorem reader_handshakeResponse {capabilities : Nat} (hcapabilities : capabilities < 2 ^ 32)
    {user database plugin : String} (huser : Char.ofNat 0 ∉ user.toList)
    (hdatabase : Char.ofNat 0 ∉ database.toList) (hplugin : Char.ofNat 0 ∉ plugin.toList)
    (charset : UInt8) (proof : Bytes) :
    (reader (handshakeResponse capabilities user proof database charset plugin) =
      (.ok (of capabilities user proof database charset plugin), []) ↔ proof.length < 256) ∧
    ∀ password scramble, Auth.proof plugin password scramble = .ok proof →
      (proof.length < 256 ↔
        (plugin = Auth.clearPlugin → (Text.encode password).length < 255)) := by
  refine ⟨⟨?_, ?_⟩, fun password scramble h ↦ Auth.length_proof_lt_iff h⟩
  · intro h
    exact length_proof_lt h
  · intro hproof
    have hr : reader (_ ++ []) = (.ok (of _ _ _ _ charset _), []) :=
      reads_handshakeResponse hcapabilities huser hdatabase hplugin hproof []
    rwa [List.append_nil] at hr

/-- What the client of the following logins can do. -/
def usualAbilities : Nat :=
  Capability.offered ||| Capability.connectWithDb

/-- A password that is sent as it is, and its database. -/
theorem reader_handshakeResponse_secret :
    let proof := Auth.clearProof (Text.encode "secret")
    proof.length < 256 ∧
    reader (handshakeResponse usualAbilities "app" proof "shop" 45 Auth.clearPlugin) =
      (.ok { capabilities := usualAbilities
             maxPacket := 16777215
             charset := 45
             filler := List.replicate 23 0
             user := "app"
             proof
             database := some "shop"
             plugin := "mysql_clear_password" }, []) := by
  intro proof
  have hlength : proof.length < 256 := by decide
  exact ⟨hlength, (reader_handshakeResponse (by decide) (by decide) (by decide) (by decide) 45
    proof).1.2 hlength⟩

/-- A password of 255 bytes that is sent as it is stands where a server expects the name of the way
to authenticate, since the byte for its length is zero. -/
theorem handshakeResponse_overlong {capabilities : Nat} {user database plugin password : String}
    {charset : UInt8} (hdatabase : hasFlag capabilities Capability.connectWithDb = false)
    (hlength : (Text.encode password).length = 255) :
    handshakeResponse capabilities user (Auth.clearProof (Text.encode password)) database charset
        plugin =
      handshakeResponse capabilities user [] database charset password ++ nulText plugin := by
  have hproof : (Auth.clearProof (Text.encode password)).length = 256 := by
    rw [Auth.clearProof, List.length_append, hlength]
    rfl
  have hbyte : UInt8.ofNat 256 = UInt8.ofNat ([] : Bytes).length := by decide
  rw [handshakeResponse_eq, handshakeResponse_eq, hdatabase, hproof, hbyte]
  simp only [Auth.clearProof, nulText, List.append_assoc, List.nil_append, if_neg Bool.false_ne_true]

/-- A password of 255 letters. -/
def longPassword : String :=
  String.ofList (List.replicate 255 'a')

/-- A server reads no proof of such a password, takes the password for the name of the way to
authenticate and has bytes left over. -/
theorem longPassword_lost :
    let proof := Auth.clearProof (Text.encode longPassword)
    let packet := handshakeResponse Capability.offered "app" proof "" 45 Auth.clearPlugin
    Auth.proof Auth.clearPlugin longPassword [] = .ok proof ∧
      reader packet = (.ok (of Capability.offered "app" [] "" 45 longPassword),
        nulText Auth.clearPlugin) ∧
      reader packet ≠ (.ok (of Capability.offered "app" proof "" 45 Auth.clearPlugin), []) := by
  intro proof packet
  have hletters : longPassword.toList = List.replicate 255 'a' := String.toList_ofList
  have hletter : String.utf8EncodeChar 'a' = [97] := by decide
  have hlength : (Text.encode longPassword).length = 255 := by
    rw [Text.encode, hletters, List.flatMap_replicate, hletter, List.flatten_replicate_singleton,
      List.length_replicate]
  have hnul : Char.ofNat 0 ∉ longPassword.toList := by
    rw [hletters, List.mem_replicate]
    decide
  have hpresent : longPassword ≠ "" := by
    intro hempty
    rw [hempty] at hlength
    exact absurd hlength (by decide)
  have hread : reader packet = (.ok (of Capability.offered "app" [] "" 45 longPassword),
      nulText Auth.clearPlugin) := by
    rw [show packet = _ from handshakeResponse_overlong (by decide) hlength]
    exact reads_handshakeResponse (by decide) (by decide) (by decide) hnul (by decide) _
  refine ⟨Auth.proof_clearPlugin hpresent [], hread, ?_⟩
  rw [hread]
  intro h
  have hleft : nulText Auth.clearPlugin = [] := (Prod.mk.inj h).2
  exact absurd hleft (by decide)

end Wire.LoginAnswer

end MariaClient
