import MariaClient.Client.Remote
import MariaClient.CommandLine.Program
import Std.Async.DNS
import Std.Async.TCP

/-!
# The executable

Reads the surroundings, runs the program and prints.  A run is a function of what the server
sends: as long as the stream runs out, the frames that are due are sent, more is received and the
program is run again on the longer stream.
-/

namespace MariaClient.CommandLine

open Std.Async Std.Net

/-- The directory for configurations, if the environment tells one. -/
def configDirectory : IO (Option String) := do
  match ← IO.getEnv "XDG_CONFIG_HOME", ← IO.getEnv "HOME" with
  | some directory, _ =>
    if directory.startsWith "/" then return some directory
    else return (← IO.getEnv "HOME").map (· ++ "/.config")
  | none, home => return home.map (· ++ "/.config")

/-- A file under its path, if it can be read. -/
def readFile (path : String) : IO (List (Place × Wire.Bytes)) := do
  try return [(Files.placeOf path, (← IO.FS.readBinFile path).toList)]
  catch _ => return []

/-- What the program finds around itself. -/
def surroundings (o : Options) : IO Surroundings := do
  let url ← IO.getEnv urlVariable
  let directory ← configDirectory
  let files ← ((o.config.or (directory.map defaultPath)).toList.mapM readFile : IO _)
  return { url, configDirectory := directory, files := { files := files.flatten } }

/-- An address on the network with a port. -/
def socketAddress (port : Nat) : IPAddr → SocketAddress
  | .v4 addr => .v4 { addr, port := port.toUInt16 }
  | .v6 addr => .v6 { addr, port := port.toUInt16 }

/-- Connects to an address. -/
def dialAddress (address : SocketAddress) : IO (Option TCP.Socket.Client) := do
  try
    let peer ← TCP.Socket.Client.mk
    (peer.connect address).block
    return some peer
  catch _ => return none

/-- Connects to the first address of a host that answers. -/
def dial (host : String) (port : Nat) : IO (Option TCP.Socket.Client) := do
  try
    let addresses ← (DNS.getAddrInfo host (toString port)).block
    addresses.toList.findSomeM? fun address ↦ dialAddress (socketAddress port address)
  catch _ => return none

/-- Sends some frames. -/
def deliver (peer : TCP.Socket.Client) (frames : List Wire.Frame) : IO Unit :=
  frames.forM fun f ↦ (peer.send (ByteArray.mk f.encode.toArray)).block

/-- Runs the program against a peer that has sent some bytes and has got so many frames. -/
partial def converse (run : Stream → Outcome × Remote) (peer : TCP.Socket.Client)
    (received : Wire.Bytes) (delivered : Nat) : IO Outcome := do
  let (outcome, r) := run { bytes := received }
  match r.ranOut with
  | none =>
    deliver peer (r.allSent.drop delivered)
    return outcome
  | some due =>
    deliver peer ((r.allSent.take due).drop delivered)
    match ← (peer.recv? 65536).block with
    | some chunk => converse run peer (received ++ chunk.toList) due
    | none =>
      deliver peer (r.allSent.drop due)
      return outcome

/-- Runs the program with what can be reached.  Local sockets cannot. -/
def runReaching (w : Surroundings) (args : List String) : IO Outcome := do
  let run (streams : List (String × Stream)) :=
    runProgram Remote.server w args { streams, files := w.files }
  let alone := (run []).1
  match Invocation.ofArguments args with
  | .run _ .config => return alone
  | .run o _ =>
    match resolveAccount w o with
    | .error _ => return alone
    | .ok a =>
      if a.unixSocket.isSome ∨ a.connectSettings.isOk = false then return alone
      match ← dial a.hostName a.port with
      | none => return alone
      | some peer => converse (fun s ↦ run [(a.address, s)]) peer [] 0
  | _ => return alone

/-- Reads the surroundings, runs the program and prints. -/
def execute (args : List String) : IO UInt32 := do
  let o := match Invocation.ofArguments args with
    | .run o _ => o
    | _ => {}
  let outcome ← runReaching (← surroundings o) args
  IO.print outcome.out
  IO.eprint outcome.err
  return outcome.code.toUInt32

end MariaClient.CommandLine

/-- Runs the program. -/
def main (args : List String) : IO UInt32 :=
  MariaClient.CommandLine.execute args
