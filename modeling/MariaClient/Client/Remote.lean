import MariaClient.Client.Login

/-!
# Remote servers

Servers that are reached over a channel.  What they send is known in advance, so a run of a client
is a function of it.
-/

namespace MariaClient

open Wire

/-- What can be reached, by address, and the channel that is open.  `sent` holds the frames of
the channels before it, and `ranOut` counts those that had been sent when a stream ran out. -/
structure Remote where
  streams : List (String × Stream) := []
  files : Files := {}
  channel : Option Channel := none
  sent : List Frame := []
  ranOut : Option Nat := none
  deriving DecidableEq, Repr

namespace Remote

/-- A channel to a server.  Local sockets are secure. -/
def channelOf (a : Account) (settings : ConnectSettings) (s : Stream) : Channel where
  incoming := s.bytes
  stalls := s.stalls
  secure := a.unixSocket.isSome
  readTimeout := settings.readTimeout
  connectTimeout := settings.connectTimeout

/-- The most bytes in the path of a local socket. -/
def socketPathLimit : Nat := 107

/-- Why nobody answers at the path of a local socket.  What lies there is no socket.  A path that
begins with a zero is no path but the name of a socket outside of all directories. -/
def socketFault (fs : Files) (path : String) : IoFault :=
  if path = "" then .invalidArgument
  else if path.toList.head? = some (Char.ofNat 0) then .refused
  else if path.contains (Char.ofNat 0) then .nulInSocketPath
  else if socketPathLimit < path.utf8ByteSize then .longSocketPath
  else match fs.find path with
    | .ok _ => .refused
    | .error fault => fault

/-- The stream of the server of an account. -/
def reach (a : Account) (r : Remote) : Except Error Stream :=
  match r.streams.lookup a.address with
  | some s => .ok s
  | none => .error (.io ((a.unixSocket.map (socketFault r.files)).getD .refused))

/-- Lets go of a channel. -/
def hangUp (c : Channel) (r : Remote) : Remote :=
  { r with
    channel := none
    sent := r.sent ++ c.sent
    ranOut := r.ranOut.or (c.ranOut.map (r.sent.length + ·)) }

/-- Opens a channel and logs in.  A channel on which that fails is let go without a word; on one
that is ready only single reads are limited in time. -/
def connect (a : Account) : Attempt Remote String := fun r ↦
  match (do return (← a.connectSettings, ← r.reach a)) with
  | .error e => (.error e, r)
  | .ok (settings, stream) =>
    match Login.logIn r.files a settings (channelOf a settings stream) with
    | (.ok version, c) =>
      (.ok version, { r with channel := some { c with connectTimeout := none } })
    | (.error e, c) => (.error e, r.hangUp c)

/-- A step on the channel that is open. -/
def onChannel {α : Type} (x : Attempt Channel α) : Attempt Remote α := fun r ↦
  match r.channel with
  | none => (.error .notConnected, r)
  | some c =>
    let (result, c) := x c
    (result, { r with channel := some c })

/-- Says goodbye if a channel is open. -/
def close (r : Remote) : Remote :=
  match r.channel with
  | none => r
  | some c => r.hangUp c.quit

/-- All frames that were sent. -/
def allSent (r : Remote) : List Frame :=
  r.sent ++ (r.channel.map (·.sent)).getD []

/-- The server that is reached over channels. -/
def server : Server Remote where
  connect := connect
  ask request := onChannel (Channel.ask request)
  close := close

end Remote

end MariaClient
