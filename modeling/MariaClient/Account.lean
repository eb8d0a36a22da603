import MariaClient.Dictionary
import MariaClient.Error
import MariaClient.Text.Blank
import MariaClient.Wire.Handshake

/-!
# Accounts

Where a server is, who logs in to it and how the session behaves.  Settings of the connection are
kept as texts under their names; `connectSettings` reads them.
-/

namespace MariaClient

/-- The keys and certificates of a connection.  Names are paths of files. -/
structure SslOptions where
  key : Option String := none
  certificate : Option String := none
  ca : Option String := none
  caPath : Option String := none
  cipher : Option String := none
  verifyServerCert : Bool := false
  deriving DecidableEq, Repr

namespace SslOptions

/-- The server has to prove who it is. -/
def verifies (o : SslOptions) : Bool :=
  o.verifyServerCert || o.ca.isSome || o.caPath.isSome

/-- Refuses a key without a certificate and a certificate without a key. -/
def validate (o : SslOptions) : Except Error Unit :=
  if o.key.isSome = o.certificate.isSome then .ok ()
  else .error (.config .keyWithoutCertificate)

end SslOptions

/-- What happens to errors of a session: whether they are logged, and whether callers see them. -/
structure ErrorPolicy where
  log : Bool := true
  raise : Bool := true
  deriving DecidableEq, Repr

/-- Where a server is and who logs in to it. -/
structure Account where
  hostName : String := "localhost"
  userName : String := ""
  password : String := ""
  schema : String := ""
  port : Nat := 3306
  unixSocket : Option String := none
  ssl : Option SslOptions := none
  autoCommit : Bool := true
  options : Dictionary String := []
  connectOptions : Dictionary String := []
  errors : ErrorPolicy := {}
  deriving DecidableEq, Repr

/-- The settings of a connection.  Times are whole seconds. -/
structure ConnectSettings where
  connectTimeout : Option Nat := none
  readTimeout : Option Nat := none
  writeTimeout : Option Nat := none
  initCommand : Option String := none
  charset : UInt8 := 45
  deriving DecidableEq, Repr

namespace ConnectSettings

/-- Reads whole seconds. -/
def seconds (name text : String) : Except Error Nat :=
  match Text.unsignedWord? 64 (Text.trim text.toList) with
  | some n => .ok n
  | none => .error (.config (.seconds name text))

/-- The settings with one of them replaced. -/
def set (s : ConnectSettings) (name text : String) : Except Error ConnectSettings := do
  if name = "connect_timeout" then
    return { s with connectTimeout := some (← seconds name text) }
  else if name = "read_timeout" then
    return { s with readTimeout := some (← seconds name text) }
  else if name = "write_timeout" then
    return { s with writeTimeout := some (← seconds name text) }
  else if name = "init_command" then return { s with initCommand := some text }
  else if name = "charset" then
    match Wire.charsetId? text with
    | some charset => return { s with charset }
    | none => throw (.config (.charset text))
  else throw (.config (.unknownOption name))

end ConnectSettings

namespace Account

/-- The socket if there is one, otherwise the host and the port. -/
def address (a : Account) : String :=
  match a.unixSocket with
  | some path => path
  | none => s!"{a.hostName}:{a.port}"

/-- The account with a value for an option of the session. -/
def setOption (a : Account) (name value : String) : Account :=
  { a with options := a.options.insert name value }

/-- The account with a setting of the connection. -/
def setConnectOption (a : Account) (name value : String) : Account :=
  { a with connectOptions := a.connectOptions.insert name value }

/-- The settings of the connection.  They are read in the order of their names, and the first one
that cannot be read is the error. -/
def connectSettings (a : Account) : Except Error ConnectSettings := do
  let settings ← a.connectOptions.foldlM
    (fun s (name, text) ↦ s.set name text) ({} : ConnectSettings)
  match a.ssl with
  | some options => options.validate
  | none => pure ()
  return settings

end Account

end MariaClient
