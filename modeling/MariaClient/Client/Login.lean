import MariaClient.Auth
import MariaClient.Client.Exchange
import MariaClient.Tls.Config

/-!
# Logging in

A server greets, the client proves who it is, and the server may ask for other proofs before it
accepts or refuses.  A connection over a network may have to be secured first; this library
prepares that and ends where the other side would have to prove who it is.
-/

namespace MariaClient.Login

open Wire

/-! ## Proving who one is -/

/-- What a client does about a packet while it logs in. -/
inductive Step
  | accepted
  | refused (e : Error)
  | wait
  | prove (plugin : String) (payload : Bytes)
  deriving DecidableEq, Repr

/-- A proof or the error that keeps the client from giving it. -/
def Step.ofProof (plugin : String) : Except Error Bytes → Step
  | .ok payload => .prove plugin payload
  | .error e => .refused e

/-- The bytes without a zero byte at their end. -/
def dropNul (bs : Bytes) : Bytes :=
  if bs.getLast? = some 0 then bs.dropLast else bs

/-- The server asks for another way to authenticate, and sends a new scramble. -/
def switch (password : String) (request : Bytes) : Step :=
  let plugin := Text.decode (request.takeWhile (· != 0))
  let scramble := dropNul ((request.dropWhile (· != 0)).drop 1)
  .ofProof plugin (Auth.proof plugin password scramble)

/-- The server has the digest of the password at hand, or asks for the password itself.  That is
only sent if nobody else can read it. -/
def sha2 (secure : Bool) (password : String) : Bytes → Step
  | 0x03 :: _ => .wait
  | 0x04 :: _ =>
    if secure then .prove Auth.sha2Plugin (Auth.clearProof (Text.encode password))
    else .refused (.auth .insecure)
  | state => .refused (.protocol (.sha2State state.head?))

/-- What to do about a packet of the server. -/
def step (secure : Bool) (password plugin : String) (packet : Bytes) : Step :=
  match packet with
  | 0x00 :: _ => .accepted
  | 0xff :: _ => .refused (errorOf packet)
  | 0xfe :: request => switch password request
  | first :: state =>
    if first = 0x01 ∧ plugin = Auth.sha2Plugin then sha2 secure password state
    else .refused (.protocol (.authReply (some first) packet.length))
  | [] => .refused (.protocol (.authReply none 0))

/-- Goes on until the server accepts or refuses. -/
def authenticate (password plugin : String) : Attempt Channel Unit := fun c ↦
  match _h : Channel.readPacket c with
  | (.error e, d) => (.error e, d)
  | (.ok packet, d) =>
    match step d.secure password plugin packet with
    | .accepted => (.ok (), d)
    | .refused e => (.error e, d)
    | .wait => authenticate password plugin d
    | .prove plugin payload => authenticate password plugin (d.write payload)
termination_by c => c.incoming.length
decreasing_by
  all_goals simpa using Channel.readPacket_progresses _ _ _ _h

/-! ## The whole login -/

variable (fs : Files) (a : Account)

/-- The abilities that both sides have. -/
def capabilities (g : Greeting) : Nat :=
  (Capability.offered ||| if a.schema = "" then 0 else Capability.connectWithDb) &&&
    (g.capabilities ||| Capability.connectWithDb)

/-- The way to authenticate that a server begins with. -/
def pluginOf (g : Greeting) : String :=
  if g.plugin = "" then Auth.nativePlugin else g.plugin

/-- A connection is to be secured.  Local sockets need not be. -/
def toSecure : Option SslOptions :=
  if a.unixSocket.isSome then none else a.ssl

/-- Asks to secure the connection and prepares that. -/
def secureChannel (options : SslOptions) (g : Greeting) (charset : UInt8) :
    Attempt Channel Unit := do
  if !hasFlag g.capabilities Capability.ssl then Attempt.fail (.protocol .noTls)
  Attempt.update (Channel.write (sslRequest (capabilities a g) charset))
  let _config ← Tls.Config.ofOptions fs options
  let _name ← Tls.Config.serverName a.hostName
  Attempt.fail (.io .handshake)

/-- Answers a greeting with a first proof. -/
def respond (g : Greeting) (charset : UInt8) : Attempt Channel Unit := do
  let plugin := pluginOf g
  let proof ← Auth.proof plugin a.password g.scramble
  Attempt.update (Channel.write
    (handshakeResponse (capabilities a g) a.userName proof a.schema charset plugin))
  authenticate a.password plugin

/-- Logs in and runs the first command.  Gives the version of the server. -/
def logIn (settings : ConnectSettings) : Attempt Channel String := do
  let g ← Greeting.parse (← Channel.readPacket)
  if let some options := toSecure a then secureChannel fs a options g settings.charset
  respond a g settings.charset
  if let some sql := settings.initCommand then discard (Channel.query sql)
  return g.serverVersion

end MariaClient.Login
