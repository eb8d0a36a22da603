import MariaClient.Client.Remote
import MariaClient.Proofs.Client.Sends

/-!
# What a server learns of a password

A server demands proofs of a password, first by its greeting and then by requests to authenticate in
another way, and it chooses the way and the scramble of each.  The proofs that a client sends are
written here as terms, and `Demand.proof?` says which of them answers a demand.  On a channel that
others can read, `logIn_messages` gives all that is sent while a client logs in.  The password
itself is among it exactly if the server names the way to authenticate that asks for it, since that
way is not refused where others can read.
-/

namespace MariaClient.Login

open Wire Channel

/-! ## Demands and proofs -/

/-- What a client sends to prove its password. -/
inductive Proof
  | native (scramble : Bytes)
  | sha2 (scramble : Bytes)
  | cleartext
  deriving DecidableEq, Repr

/-- The bytes of a proof. -/
def Proof.payload (password : String) : Proof → Bytes
  | native scramble => Auth.nativeProof (Text.encode password) scramble
  | sha2 scramble => Auth.sha2Proof (Text.encode password) scramble
  | cleartext => Auth.clearProof (Text.encode password)

/-- A way to authenticate that a server names, with its scramble. -/
structure Demand where
  plugin : String
  scramble : Bytes
  deriving DecidableEq, Repr

namespace Demand

/-- What a greeting demands. -/
def ofGreeting (g : Greeting) : Demand where
  plugin := pluginOf g
  scramble := g.scramble

/-- What a request to authenticate in another way demands. -/
def ofSwitch (request : Bytes) : Demand where
  plugin := Text.decode (request.takeWhile (· != 0))
  scramble := dropNul ((request.dropWhile (· != 0)).drop 1)

/-- The proof that a demand is met with.  There is none if the client does not know the way. -/
def proof? (d : Demand) : Option Proof :=
  if d.plugin = Auth.nativePlugin ∨ d.plugin = "" then some (.native d.scramble)
  else if d.plugin = Auth.sha2Plugin then some (.sha2 d.scramble)
  else if d.plugin = Auth.clearPlugin then some .cleartext
  else none

/-- Only one way to authenticate is met with the password itself. -/
theorem proof?_eq_cleartext {d : Demand} :
    d.proof? = some .cleartext ↔ d.plugin = Auth.clearPlugin := by
  unfold proof?
  constructor
  · intro h
    split at h
    · cases h
    · split at h
      · cases h
      · split at h
        next hclear => exact hclear
        · cases h
  · intro h
    simp [h, Auth.nativePlugin, Auth.sha2Plugin, Auth.clearPlugin]

/-- A password that is not empty is proved as demanded, or the demand is refused. -/
theorem proof_eq {password : String} (hp : password ≠ "") (d : Demand) :
    Auth.proof d.plugin password d.scramble =
      match d.proof? with
      | some p => .ok (p.payload password)
      | none => .error (.auth (.unsupportedPlugin d.plugin)) := by
  unfold Auth.proof proof?
  rw [if_neg hp]
  split
  · rfl
  · split
    · rfl
    · split
      · rfl
      · rfl

end Demand

/-- The demands that a client meets with after it used a way to authenticate, up to one that it
refuses or to a packet that ends the login. -/
def demandsAfter (plugin : String) : List Bytes → List Demand
  | [] => []
  | (0xfe :: request) :: packets =>
    let d := Demand.ofSwitch request
    d :: if d.proof?.isSome then demandsAfter d.plugin packets else []
  | (0x01 :: 0x03 :: _) :: packets =>
    if plugin = Auth.sha2Plugin then demandsAfter plugin packets else []
  | _ => []

/-- The proofs that a client gives after it used a way to authenticate. -/
def proofsAfter (plugin : String) (packets : List Bytes) : List Proof :=
  (demandsAfter plugin packets).filterMap Demand.proof?

theorem demandsAfter_switch (plugin : String) (request : Bytes) (packets : List Bytes) :
    demandsAfter plugin ((0xfe :: request) :: packets) =
      Demand.ofSwitch request :: if (Demand.ofSwitch request).proof?.isSome then
        demandsAfter (Demand.ofSwitch request).plugin packets else [] := rfl

/-- Other packets demand nothing. -/
theorem demandsAfter_other {plugin : String} {packet : Bytes} (packets : List Bytes)
    (hswitch : ∀ request, packet ≠ 0xfe :: request)
    (hwait : ∀ state, packet ≠ 0x01 :: 0x03 :: state) :
    demandsAfter plugin (packet :: packets) = [] := by
  rw [demandsAfter]
  · exact nofun
  · intro request _ h
    exact hswitch request (List.cons.inj h).1
  · intro state _ h
    exact hwait state (List.cons.inj h).1

/-- A request to authenticate in another way is refused, or met with one proof. -/
theorem switch_eq {password : String} (hp : password ≠ "") (request : Bytes) :
    switch password request =
      match (Demand.ofSwitch request).proof? with
      | some p => .prove (Demand.ofSwitch request).plugin (p.payload password)
      | none => .refused (.auth (.unsupportedPlugin (Demand.ofSwitch request).plugin)) := by
  have h := Demand.proof_eq hp (Demand.ofSwitch request)
  change Step.ofProof (Demand.ofSwitch request).plugin (Auth.proof (Demand.ofSwitch request).plugin
    password (Demand.ofSwitch request).scramble) = _
  rw [h]
  cases (Demand.ofSwitch request).proof? <;> rfl

/-- What a step of a login has to do with the proofs that are given from its packet on. -/
def Step.Fits (password plugin : String) (packet : Bytes) (packets : List Bytes) : Step → Prop
  | .accepted | .refused _ => proofsAfter plugin (packet :: packets) = []
  | .wait => proofsAfter plugin (packet :: packets) = proofsAfter plugin packets
  | .prove plugin' payload => ∃ p : Proof, payload = p.payload password ∧
      proofsAfter plugin (packet :: packets) = p :: proofsAfter plugin' packets

theorem fits_switch {password : String} (hp : password ≠ "") (plugin : String) (request : Bytes)
    (packets : List Bytes) :
    (switch password request).Fits password plugin (0xfe :: request) packets := by
  rw [switch_eq hp]
  rcases hd : (Demand.ofSwitch request).proof? with _ | p
  · simp [Step.Fits, proofsAfter, demandsAfter_switch, hd]
  · exact ⟨p, rfl, by simp [proofsAfter, demandsAfter_switch, hd]⟩

theorem fits_sha2 (password : String) (state : Bytes) (packets : List Bytes) :
    (sha2 false password state).Fits password Auth.sha2Plugin (0x01 :: state) packets := by
  unfold sha2
  split
  · rfl
  · rfl
  next h₃ _ =>
    change (demandsAfter Auth.sha2Plugin ((0x01 :: state) :: packets)).filterMap _ = []
    rw [demandsAfter_other packets (fun _ h ↦ absurd (List.cons.inj h).1 (by decide))
      fun rest h ↦ h₃ rest (List.cons.inj h).2]
    rfl

/-- Where others can read, each step of a login fits the proofs that are given. -/
theorem fits_step {password : String} (hp : password ≠ "") (plugin : String) (packet : Bytes)
    (packets : List Bytes) :
    (step false password plugin packet).Fits password plugin packet packets := by
  unfold step
  split
  · rfl
  · rfl
  · exact fits_switch hp plugin _ packets
  next first state _ _ hswitch =>
    split
    next h =>
      obtain ⟨rfl, rfl⟩ := h
      exact fits_sha2 password state packets
    next h =>
      by_cases hwait : first = 0x01
      · subst hwait
        have hplugin : plugin ≠ Auth.sha2Plugin := fun hplugin ↦ h ⟨rfl, hplugin⟩
        change (demandsAfter plugin _).filterMap _ = []
        rcases state with _ | ⟨second, state⟩
        · rfl
        · by_cases hsecond : second = 0x03
          · subst hsecond
            rw [demandsAfter, if_neg hplugin]
            rfl
          · rw [demandsAfter_other packets (fun _ h ↦ absurd (List.cons.inj h).1 (by decide))
              fun _ h ↦ hsecond (List.cons.inj (List.cons.inj h).2).1]
            rfl
      · change (demandsAfter plugin _).filterMap _ = []
        rw [demandsAfter_other packets (fun _ h ↦ hswitch (List.cons.inj h).1)
          fun _ h ↦ hwait (List.cons.inj h).1]
        rfl
  · rfl

/-! ## Logins that others can read -/

theorem authenticate_of_error {password plugin : String} {c d : Channel} {e : Error}
    (h : readPacket c = (.error e, d)) : authenticate password plugin c = (.error e, d) := by
  rw [authenticate]
  split
  · next h' =>
    rw [h] at h'
    cases h'
    rfl
  · next h' =>
    rw [h] at h'
    cases h'

theorem authenticate_of_ok {password plugin : String} {c d : Channel} {packet : Bytes}
    (h : readPacket c = (.ok packet, d)) :
    authenticate password plugin c =
      match step d.secure password plugin packet with
      | .accepted => (.ok (), d)
      | .refused e => (.error e, d)
      | .wait => authenticate password plugin d
      | .prove plugin payload => authenticate password plugin (d.write payload) := by
  rw [authenticate]
  split
  · next h' =>
    rw [h] at h'
    cases h'
  · next h' =>
    rw [h] at h'
    cases h'
    rfl

/-- After the answer to a greeting a client sends the proofs that are demanded, and nothing else.
The induction follows the loop, and the packets that are left are those of the stream. -/
theorem authenticate_sends {password : String} (hp : password ≠ "") (plugin : String) (c : Channel)
    (hc : c.secure = false) :
    Sends (authenticate password plugin)
      ((proofsAfter plugin (packets c.incoming)).map (Proof.payload password)) c := by
  have hread {plugin : String} {c d : Channel} {packet : Bytes}
      (h : readPacket c = (.ok packet, d)) (hc : c.secure = false) :
      d.sent = c.sent ∧ d.secure = false ∧
        (step d.secure password plugin packet).Fits password plugin packet
          (packets d.incoming) := by
    obtain ⟨hsent, hsecure⟩ := Prod.mk.inj (silent_readPacket.own_eq h)
    refine ⟨hsent, hsecure.trans hc, ?_⟩
    rw [hsecure.trans hc]
    exact fits_step hp plugin packet (packets d.incoming)
  fun_induction authenticate password plugin c with
  | case1 plugin c e d h =>
    rw [packets_of_error h]
    exact sends_nil_of_eq (authenticate_of_error h) (congrArg Prod.fst (silent_readPacket.own_eq h))
  | case2 plugin c packet d h hstep =>
    obtain ⟨hsent, -, hfits⟩ := hread h hc
    rw [hstep] at hfits
    rw [packets_of_ok h, hfits]
    exact sends_nil_of_eq (by rw [authenticate_of_ok h, hstep]) hsent
  | case3 plugin c packet d h e hstep =>
    obtain ⟨hsent, -, hfits⟩ := hread h hc
    rw [hstep] at hfits
    rw [packets_of_ok h, hfits]
    exact sends_nil_of_eq (by rw [authenticate_of_ok h, hstep]) hsent
  | case4 plugin c packet d h hstep ih =>
    obtain ⟨hsent, hsecure, hfits⟩ := hread h hc
    rw [hstep] at hfits
    rw [packets_of_ok h, hfits]
    exact (ih hsecure).of_eq (by rw [authenticate_of_ok h, hstep]) hsent
  | case5 plugin c packet d h plugin' payload hstep ih =>
    obtain ⟨hsent, hsecure, hfits⟩ := hread h hc
    rw [hstep] at hfits
    obtain ⟨p, rfl, hproofs⟩ := hfits
    rw [packets_of_ok h, hproofs]
    exact (ih hsecure).of_write (by rw [authenticate_of_ok h, hstep]) hsent

variable (fs : Files) (a : Account)

/-- The demands that a client meets with from a greeting on. -/
def demandsOf (g : Greeting) (packets : List Bytes) : List Demand :=
  Demand.ofGreeting g :: if (Demand.ofGreeting g).proof?.isSome then
    demandsAfter (pluginOf g) packets else []

/-- The demands that a client meets with in the packets of a server. -/
def demands : List Bytes → List Demand
  | [] => []
  | greeting :: packets =>
    match Greeting.parse greeting with
    | .error _ => []
    | .ok g => demandsOf g packets

/-- The answer to a greeting with a proof in it, and then the other proofs. -/
def answers (charset : UInt8) (g : Greeting) : List Proof → List Bytes
  | [] => []
  | p :: ps =>
    handshakeResponse (capabilities a g) a.userName (p.payload a.password) a.schema charset
      (pluginOf g) :: ps.map (Proof.payload a.password)

/-- What a client sends to prove its password to the server of these packets. -/
def proving (charset : UInt8) : List Bytes → List Bytes
  | [] => []
  | greeting :: packets =>
    match Greeting.parse greeting with
    | .error _ => []
    | .ok g => answers a charset g ((demands (greeting :: packets)).filterMap Demand.proof?)

theorem respond_apply (g : Greeting) (charset : UInt8) (c : Channel) :
    respond a g charset c =
      match Auth.proof (pluginOf g) a.password g.scramble with
      | .error e => (.error e, c)
      | .ok proof =>
        authenticate a.password (pluginOf g) (c.write
          (handshakeResponse (capabilities a g) a.userName proof a.schema charset
            (pluginOf g))) := by
  unfold respond
  rcases Auth.proof (pluginOf g) a.password g.scramble with e | proof
  · rfl
  · rfl

theorem respond_sends (hp : a.password ≠ "") (g : Greeting) (charset : UInt8) (c : Channel)
    (hc : c.secure = false) :
    Sends (respond a g charset)
      (answers a charset g ((demandsOf g (packets c.incoming)).filterMap Demand.proof?)) c := by
  have hproof := Demand.proof_eq hp (Demand.ofGreeting g)
  change Auth.proof (pluginOf g) a.password g.scramble = _ at hproof
  have hrespond := respond_apply a g charset c
  rw [hproof] at hrespond
  rw [demandsOf, List.filterMap_cons]
  rcases hd : (Demand.ofGreeting g).proof? with _ | p
  · rw [hd] at hrespond
    exact sends_nil_of_eq hrespond rfl
  · rw [hd] at hrespond
    exact (authenticate_sends hp (pluginOf g) (c.write _) hc).of_write hrespond rfl

theorem query_sends (sql : String) (c : Channel) :
    Sends (discard (Channel.query sql)) [queryCommand sql] c := by
  have hreplies : Silent (do discard (readReplies Reply.toQueryResult)) :=
    (silent_readReplies _).bind fun _ ↦ silent_pure _
  exact (hreplies.sends _).of_write (d := { c with seq := 0 }) rfl rfl

/-- A login on a channel that is not to be secured, after the greeting was taken. -/
theorem logIn_apply (settings : ConnectSettings) (hs : toSecure a = none) {c d : Channel}
    {greeting : Bytes} (h : readPacket c = (.ok greeting, d)) :
    logIn fs a settings c =
      match Greeting.parse greeting with
      | .error e => (.error e, d)
      | .ok g => (do
          respond a g settings.charset
          if let some sql := settings.initCommand then discard (Channel.query sql)
          return g.serverVersion : Attempt Channel String) d := by
  refine (Attempt.bind_apply_ok h).trans ?_
  rw [hs]
  rcases Greeting.parse greeting with e | g
  · rfl
  · rfl

/-- All that is sent while a client logs in where others can read: what proves the password, and
after it the first command if there is one and the server accepted. -/
theorem logIn_sends (settings : ConnectSettings) (hp : a.password ≠ "") (hs : toSecure a = none)
    (c : Channel) (hc : c.secure = false) :
    ∃ first, first <+: settings.initCommand.toList.map queryCommand ∧
      Sends (logIn fs a settings) (proving a settings.charset (packets c.incoming) ++ first) c := by
  rcases h : readPacket c with ⟨e | greeting, d⟩
  · rw [packets_of_error h]
    exact ⟨[], List.nil_prefix, sends_nil_of_eq (Attempt.bind_apply_error h)
      (congrArg Prod.fst (silent_readPacket.own_eq h))⟩
  · obtain ⟨hsent, hsecure⟩ := Prod.mk.inj (silent_readPacket.own_eq h)
    have hlogIn := logIn_apply fs a settings hs h
    rw [packets_of_ok h, proving]
    rcases hg : Greeting.parse greeting with e | g
    · rw [hg] at hlogIn
      exact ⟨[], List.nil_prefix, sends_nil_of_eq hlogIn hsent⟩
    · rw [hg] at hlogIn
      have hdemands :
          demands (greeting :: packets d.incoming) = demandsOf g (packets d.incoming) := by
        rw [demands, hg]
      rw [hdemands]
      have hrespond := respond_sends a hp g settings.charset d (hsecure.trans hc)
      rcases hr : respond a g settings.charset d with ⟨e | _, d'⟩
      · refine ⟨[], List.nil_prefix, ?_⟩
        rw [List.append_nil]
        exact (hrespond.bind_error hr).of_eq hlogIn hsent
      · rcases hi : settings.initCommand with _ | sql
        · rw [hi] at hlogIn
          exact ⟨[], List.nil_prefix,
            (hrespond.bind hr ((silent_pure g.serverVersion).sends d')).of_eq hlogIn hsent⟩
        · rw [hi] at hlogIn
          have hquery := (query_sends sql d').bind_silent fun _ ↦ silent_pure g.serverVersion
          exact ⟨[queryCommand sql], List.prefix_rfl, (hrespond.bind hr hquery).of_eq hlogIn hsent⟩

/-- Whatever a server sends, a client that logs in over a plain network connection sends it the
proofs that it demands and nothing else, up to the first command; and the password itself is among
the proofs exactly if the server names the way to authenticate that asks for it, in its greeting or
in a request that the client gets to. -/
theorem logIn_messages (settings : ConnectSettings) (s : Stream) (hp : a.password ≠ "")
    (hssl : a.ssl = none) (hsocket : a.unixSocket = none) :
    (∃ first, first <+: settings.initCommand.toList.map queryCommand ∧
      messages (logIn fs a settings (Remote.channelOf a settings s)).2.sent =
        proving a settings.charset (packets s.bytes) ++ first) ∧
    (Proof.cleartext ∈ (demands (packets s.bytes)).filterMap Demand.proof? ↔
      ∃ d ∈ demands (packets s.bytes), d.plugin = Auth.clearPlugin) := by
  constructor
  · have hs : toSecure a = none := by rw [toSecure, hsocket, hssl]; rfl
    have hc : (Remote.channelOf a settings s).secure = false := by
      rw [Remote.channelOf, hsocket]
      rfl
    obtain ⟨first, hfirst, hsends⟩ := logIn_sends fs a settings hp hs _ hc
    exact ⟨first, hfirst, hsends.messages_sent rfl⟩
  · simp only [List.mem_filterMap, Demand.proof?_eq_cleartext]

/-! ## A server that asks for the password itself -/

/-- The greeting of a server that names a way to authenticate, with a scramble of twenty bytes. -/
def greetingPacket (plugin : String) : Bytes :=
  [0x0a, 0] ++ toLE 4 7 ++ List.replicate 8 0x61 ++ [0] ++
    toLE 2 Capability.secureConnection ++ [45] ++ toLE 2 2 ++
    toLE 2 (Capability.pluginAuth / 65536) ++ [21] ++ List.replicate 10 0 ++
    List.replicate 12 0x61 ++ [0] ++ nulText plugin

/-- A request to authenticate in another way, with a scramble of two bytes. -/
def switchPacket (plugin : String) : Bytes :=
  0xfe :: nulText plugin ++ [0x61, 0x61, 0]

/-- A server that greets with digests and then asks for the password. -/
def curiousServer : List Bytes :=
  [greetingPacket Auth.sha2Plugin, switchPacket Auth.clearPlugin]

/-- The password is proved by a digest at first, and then it is sent as it is. -/
theorem logIn_messages_curiousServer :
    (({ password := "pw" } : Account).password ≠ "" ∧ ({ password := "pw" } : Account).ssl = none ∧
      ({ password := "pw" } : Account).unixSocket = none) ∧
    Proof.cleartext ∈ (demands (packets (stream 0 curiousServer))).filterMap Demand.proof? := by
  refine ⟨⟨by decide, rfl, rfl⟩, ?_⟩
  refine (logIn_messages {} { password := "pw" } {} { bytes := stream 0 curiousServer } (by decide)
    rfl rfl).2.2 ⟨⟨Auth.clearPlugin, [0x61, 0x61]⟩, ?_, rfl⟩
  change _ ∈ demands (packets (stream 0 curiousServer))
  rw [packets_framed (framed_stream 0 curiousServer)]
  decide

/-- A server that names the way to authenticate which asks for the password gets it in the answer to
its greeting, although anybody on the network can read it there. -/
theorem password_readable_by_others :
    messages (logIn {} { password := "pw" } {} (Remote.channelOf { password := "pw" } {}
      { bytes := stream 0 [greetingPacket Auth.clearPlugin] })).2.sent =
    [handshakeResponse (Capability.secureConnection ||| Capability.pluginAuth) ""
      (Auth.clearProof (Text.encode "pw")) "" 45 Auth.clearPlugin] := by
  obtain ⟨first, hfirst, hsends⟩ := logIn_sends {} { password := "pw" } {} (by decide) rfl
    (Remote.channelOf { password := "pw" } {}
      { bytes := stream 0 [greetingPacket Auth.clearPlugin] }) rfl
  rw [hsends.messages_sent rfl, List.prefix_nil.1 hfirst, List.append_nil]
  change proving _ _ (packets (stream 0 [greetingPacket Auth.clearPlugin])) = _
  rw [packets_framed (framed_stream 0 _)]
  decide

end MariaClient.Login
