import MariaClient.Account
import MariaClient.Files
import MariaClient.Tls.PrivateKey
import MariaClient.Tls.ServerName

/-!
# Configurations

What a client brings to a secure connection: the certificates to which that of the server has to be
traced back, and its own certificates with the key that belongs to them.
-/

namespace MariaClient.Tls

open Wire

/-- Certificates with the private key that belongs to the first of them. -/
structure Identity where
  certificates : List Bytes
  key : Bytes
  deriving DecidableEq, Repr

/-- A configuration.  Without roots every server is trusted; with an empty list of roots the public
ones count. -/
structure Config where
  roots : Option (List Bytes) := none
  identity : Option Identity := none
  deriving DecidableEq, Repr

namespace Config

variable (fs : Files)

/-- Names the file that cannot be read. -/
def reading {α : Type} (path : String) (r : Except IoFault α) : Except Error α :=
  r.mapError fun cause ↦ .config (.unreadable path cause)

/-- The certificates of a file, which has at least one. -/
def certificates (path : String) : Except Error (List Bytes) := do
  match Pem.certificates (← reading path (fs.read path)) with
  | [] => throw (.config (.noCertificates path))
  | found => return found

/-- The private key of a file. -/
def privateKey (path : String) : Except Error (Pem.KeyForm × Bytes) := do
  match Pem.privateKey? (← reading path (fs.read path)) with
  | .error fault => throw (.io (.pem fault))
  | .ok none => throw (.config (.noPrivateKey path))
  | .ok (some key) => return key

/-- The files of a directory that may hold certificates. -/
def candidates (directory : String) : Except Error (List String) := do
  let names ← reading directory (fs.list directory)
  return (names.filter fun name ↦
    Files.extension? name == some "pem" || Files.extension? name == some "crt").map
      (Files.join directory)

/-- The certificates of one file, all of which have to be readable. -/
def rootsOfFile (path : String) : Except Error (List Bytes) := do
  let found ← certificates fs path
  found.forM fun c ↦ (Certificate.checkRoot c).mapError .tls
  return found

/-- The certificates of the files of a directory.  Those that are not readable are left out. -/
def rootsOfDirectory (directory : String) : Except Error (List Bytes) := do
  let found ← (← candidates fs directory).mapM (certificates fs)
  return found.flatten.filter fun c ↦ (Certificate.checkRoot c).isOk

/-- The certificates to which that of a server has to be traced back. -/
def rootsOf (o : SslOptions) : Except Error (List Bytes) := do
  let fromFile ← o.ca.elim (pure []) (rootsOfFile fs)
  let fromDirectory ← o.caPath.elim (pure []) (rootsOfDirectory fs)
  return fromFile ++ fromDirectory

/-- A key that belongs to another certificate is refused. -/
def checkPair (certificate : Bytes) (form : Pem.KeyForm) (key : Bytes) : Except TlsFault Unit := do
  let found ← PrivateKey.publicKey form key
  if (← Certificate.publicKey certificate) ≠ found then throw .keyMismatch

/-- The certificates of a client with their key. -/
def identityOf (certificatePath keyPath : String) : Except Error Identity := do
  let found ← certificates fs certificatePath
  let (form, key) ← privateKey fs keyPath
  (checkPair (found.headD []) form key).mapError .tls
  return { certificates := found, key }

/-- The configuration that some options describe. -/
def ofOptions (o : SslOptions) : Except Error Config := do
  o.validate
  let roots ← if o.verifies then some <$> rootsOf fs o else pure none
  match o.certificate, o.key with
  | some certificatePath, some keyPath =>
    return { roots, identity := some (← identityOf fs certificatePath keyPath) }
  | _, _ => return { roots }

/-- The name of a server, as it has to prove it. -/
def serverName (host : String) : Except Error String :=
  if ServerName.isValid host then .ok host else .error (.config (.serverName host))

end Config

end MariaClient.Tls
