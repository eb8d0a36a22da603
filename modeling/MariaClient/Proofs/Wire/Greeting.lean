import MariaClient.Proofs.Wire.Reads
import MariaClient.Wire.Handshake

/-!
# What a client reads in a greeting

A server puts its greeting into a packet in which the scramble is cut in two and the abilities are
cut in two as well.  Where the second part of the scramble ends is told by one byte, and the name of
the way to authenticate starts there.  A client that takes the packet apart gets the greeting back
(`Greeting.parse_greeting`).

The law of the packet is put together from the laws of its fields.  Only the second part of the
scramble has a law of its own (`reads_secondPart`).  A client takes 13 bytes of it at the least, so
it would take the beginning of the name for the end of a scramble of less than 20 bytes.
-/

namespace MariaClient.Wire.Greeting

/-! ## The layout of a greeting -/

/-- A greeting that fits into a packet and that can be told from a failure.  Nothing that ends with
a zero byte has another one inside. -/
structure Fits (g : Greeting) : Prop where
  protocolVersion : g.protocolVersion ≠ 0xff
  serverVersion : Char.ofNat 0 ∉ g.serverVersion.toList
  connectionId : g.connectionId < 2 ^ 32
  le_length : 20 ≤ g.scramble.length
  length_le : g.scramble.length ≤ 254
  scramble : ∀ b ∈ g.scramble, b ≠ 0
  capabilities : g.capabilities < 2 ^ 32
  secureConnection : hasFlag g.capabilities Capability.secureConnection = true
  statusFlags : g.statusFlags < 2 ^ 16
  plugin : Char.ofNat 0 ∉ g.plugin.toList

/-- The scramble from its ninth byte on, and the zero byte that ends it. -/
def secondBytes (g : Greeting) : Bytes :=
  g.scramble.drop 8 ++ [0]

/-- What follows the version in the packet of a greeting.  Nothing reads the filler and the reserved
bytes. -/
def body (g : Greeting) (filler : UInt8) (reserved : Bytes) : Bytes :=
  nulText g.serverVersion ++ toLE 4 g.connectionId ++ g.scramble.take 8 ++ [filler] ++
    toLE 2 (g.capabilities % 65536) ++ [g.charset] ++ toLE 2 g.statusFlags ++
    toLE 2 (g.capabilities / 65536) ++ [UInt8.ofNat (g.scramble.length + 1)] ++ reserved ++
    g.secondBytes ++
    (if hasFlag g.capabilities Capability.pluginAuth then nulText g.plugin else [])

/-- The packet with which a server greets. -/
def packet (g : Greeting) (filler : UInt8) (reserved : Bytes) : Bytes :=
  [g.protocolVersion] ++ g.body filler reserved

/-- What a client gets to know of a greeting: the way to authenticate only if it is named. -/
def told (g : Greeting) : Greeting :=
  { g with plugin := if hasFlag g.capabilities Capability.pluginAuth then g.plugin else "" }

/-! ## The parts of the packet -/

variable {bs : Bytes} {capabilities : Nat} {plugin : String}

theorem trimNul_append_zero (h : ∀ b ∈ bs, b ≠ 0) : trimNul (bs ++ [0]) = bs := by
  have hlast : bs.reverse.dropWhile (· == 0) = bs.reverse := by
    rcases hreverse : bs.reverse with _ | ⟨b, bs'⟩
    · rfl
    · have hb : b ∈ bs := List.mem_reverse.1 (hreverse ▸ List.mem_cons_self)
      exact List.dropWhile_cons_of_neg fun hzero ↦ h b hb (beq_iff_eq.1 hzero)
  rw [trimNul, List.reverse_append, List.reverse_singleton, List.singleton_append,
    List.dropWhile_cons_of_pos (by decide), hlast, List.reverse_reverse]

/-- The second part of a scramble is taken as a whole if it has as many bytes as its length tells,
and 13 at the least.  What is left of the packet does not cut it. -/
theorem reads_secondPart (hsecure : hasFlag capabilities Capability.secureConnection = true)
    {length : Nat} (hlength : bs.length = max (length - 8) 13) :
    Reads (secondPart capabilities length) bs bs := by
  intro rest
  have hleft : Reader.remaining (bs ++ rest) = (.ok (bs ++ rest), bs ++ rest) := rfl
  have htaken : min (max (length - 8) 13) (bs ++ rest).length = bs.length := by
    rw [← hlength, List.length_append]
    exact Nat.min_eq_left (Nat.le_add_right _ _)
  rw [secondPart, if_pos hsecure, Attempt.bind_apply_ok hleft, htaken]
  exact reads_bytes rfl rest

theorem reads_plugin (h : Char.ofNat 0 ∉ plugin.toList) :
    Reads (pluginReader capabilities)
      (if hasFlag capabilities Capability.pluginAuth then nulText plugin else [])
      (if hasFlag capabilities Capability.pluginAuth then plugin else "") := by
  rw [pluginReader]
  split
  · have hr := (reads_nulBytes (Text.ne_zero_of_mem_encode h)).map Text.decode
    rwa [Text.decode_encode] at hr
  · exact .pure ""

/-! ## Reading the packet back -/

namespace Fits

variable {g : Greeting}

theorem length_secondBytes (h : g.Fits) : 8 + g.secondBytes.length = g.scramble.length + 1 := by
  have hlength : 8 ≤ g.scramble.length := Nat.le_trans (by decide) h.le_length
  rw [secondBytes, List.length_append, List.length_drop, List.length_singleton, ← Nat.add_assoc,
    Nat.add_sub_of_le hlength]

/-- The byte for the length tells where the scramble ends, since it has neither so many bytes that
the byte could not count them nor so few that 13 would be too many for the second part. -/
theorem length_secondBytes_eq (h : g.Fits) :
    g.secondBytes.length = max ((UInt8.ofNat (g.scramble.length + 1)).toNat - 8) 13 := by
  have hlt : g.scramble.length + 1 < 256 := Nat.succ_lt_succ (Nat.lt_succ_of_le h.length_le)
  have hle : 8 + 13 ≤ 8 + g.secondBytes.length := by
    rw [h.length_secondBytes]
    exact Nat.succ_le_succ h.le_length
  rw [UInt8.toNat_ofNat_of_lt' hlt, ← h.length_secondBytes, Nat.add_sub_cancel_left]
  exact (Nat.max_eq_left (Nat.le_of_add_le_add_left hle)).symm

theorem trimNul_scramble (h : g.Fits) :
    trimNul (g.scramble.take 8 ++ g.secondBytes) = g.scramble := by
  rw [secondBytes, ← List.append_assoc, List.take_append_drop, trimNul_append_zero h.scramble]

end Fits

variable {g : Greeting} {reserved : Bytes}

/-- The two parts of the abilities make all of them. -/
theorem capabilities_eq (g : Greeting) :
    g.capabilities % 65536 + 65536 * (g.capabilities / 65536) = g.capabilities :=
  Nat.mod_add_div _ _

/-- Every field of a greeting is read back. -/
theorem reads_body (h : g.Fits) (filler : UInt8) (hreserved : reserved.length = 10) :
    Reads (fields g.protocolVersion) (g.body filler reserved) g.told := by
  have hfirst : (g.scramble.take 8).length = 8 :=
    List.length_take_of_le (Nat.le_trans (by decide) h.le_length)
  have hlower : g.capabilities % 65536 < 256 ^ 2 := Nat.mod_lt _ (by decide)
  have hupper : g.capabilities / 65536 < 256 ^ 2 := Nat.div_lt_of_lt_mul h.capabilities
  have hsecure : hasFlag (g.capabilities % 65536 + 65536 * (g.capabilities / 65536))
      Capability.secureConnection = true := by
    rw [capabilities_eq, h.secureConnection]
  have hfields : Reads (fields g.protocolVersion) _ _ :=
    (reads_nulBytes (Text.ne_zero_of_mem_encode h.serverVersion)).bind <|
      (reads_le h.connectionId : Reads (.le 4) _ _).bind <| (reads_bytes hfirst).bind <|
        (reads_byte filler).bind <| (reads_le hlower).bind <| (reads_byte g.charset).bind <|
          (reads_le h.statusFlags : Reads (.le 2) _ _).bind <| (reads_le hupper).bind <|
            (reads_byte _).bind <| (reads_bytes hreserved).bind <|
              (reads_secondPart hsecure h.length_secondBytes_eq).bind <|
                (reads_plugin h.plugin).map _
  -- What the readers took is now put together again: the scramble and the abilities.
  rw [Text.decode_encode, h.trimNul_scramble, capabilities_eq] at hfields
  simp only [body, List.append_assoc]
  exact hfields

/-- A version that does not tell of a failure is followed by the fields. -/
theorem reads_packet (h : g.Fits) (filler : UInt8) (hreserved : reserved.length = 10)
    (whole : Bytes) : Reads (reader whole) (g.packet filler reserved) g.told := by
  refine (reads_byte g.protocolVersion).bind ?_
  rw [if_neg h.protocolVersion]
  exact reads_body h filler hreserved

/-- A client that reads the packet of a greeting gets every field of the greeting as the server put
it in: the scramble in one piece and without the zero byte at its end, all the abilities, and the
way to authenticate if the abilities say that it is named.  If they do not, its name is empty.
The filler and the reserved bytes may be anything. -/
theorem parse_greeting {g : Greeting} (h : g.Fits) (filler : UInt8) {reserved : Bytes}
    (hreserved : reserved.length = 10) :
    parse (g.packet filler reserved) =
      .ok { g with
        plugin := if hasFlag g.capabilities Capability.pluginAuth then g.plugin else "" } := by
  have hr := (reads_packet h filler hreserved (g.packet filler reserved)).run []
  rwa [List.append_nil] at hr

/-- A greeting with a scramble of so many letters. -/
def lettered (length capabilities : Nat) : Greeting where
  protocolVersion := 10
  serverVersion := "11.4.2-MariaDB"
  connectionId := 42
  scramble := List.replicate length 97
  capabilities
  charset := 45
  statusFlags := 2
  plugin := "mysql_native_password"

theorem fits_lettered {length capabilities : Nat} (hle : 20 ≤ length) (hle' : length ≤ 254)
    (hcapabilities : capabilities < 2 ^ 32)
    (hsecure : hasFlag capabilities Capability.secureConnection = true) :
    (lettered length capabilities).Fits where
  protocolVersion := show (10 : UInt8) ≠ 0xff by decide
  serverVersion := show Char.ofNat 0 ∉ "11.4.2-MariaDB".toList by decide
  connectionId := show 42 < 2 ^ 32 by decide
  le_length := by
    rw [lettered, List.length_replicate]
    exact hle
  length_le := by
    rw [lettered, List.length_replicate]
    exact hle'
  scramble := by
    intro b hb
    rw [List.eq_of_mem_replicate hb]
    decide
  capabilities := hcapabilities
  secureConnection := hsecure
  statusFlags := show 2 < 2 ^ 16 by decide
  plugin := show Char.ofNat 0 ∉ "mysql_native_password".toList by decide

/-- The shortest scramble with the name of the way to authenticate behind it, and the longest one
with nothing behind it. -/
theorem parse_greeting_lettered :
    (lettered 20 Capability.offered).Fits ∧ (lettered 254 Capability.secureConnection).Fits ∧
    (List.replicate 10 (0 : UInt8)).length = 10 ∧
    parse ((lettered 20 Capability.offered).packet 0 (List.replicate 10 0)) =
      .ok (lettered 20 Capability.offered) ∧
    parse ((lettered 254 Capability.secureConnection).packet 7 (List.replicate 10 0)) =
      .ok { lettered 254 Capability.secureConnection with plugin := "" } := by
  have hshort : (lettered 20 Capability.offered).Fits :=
    fits_lettered (by decide) (by decide) (by decide) (by decide)
  have hlong : (lettered 254 Capability.secureConnection).Fits :=
    fits_lettered (by decide) (by decide) (by decide) (by decide)
  have hreserved : (List.replicate 10 (0 : UInt8)).length = 10 := by decide
  exact ⟨hshort, hlong, hreserved, parse_greeting hshort 0 hreserved, parse_greeting hlong 7 hreserved⟩

end MariaClient.Wire.Greeting
