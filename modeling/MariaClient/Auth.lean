import MariaClient.Digest.Sha1
import MariaClient.Digest.Sha256
import MariaClient.Error

/-!
# Authentication

The proofs of a password that a server asks for.  Two of them send a digest that depends on a
scramble which the server chose; the third sends the password itself.
-/

namespace MariaClient.Auth

open Wire Digest

/-- The way to authenticate of a server that names none. -/
def nativePlugin : String := "mysql_native_password"

/-- The way to authenticate that may ask for the password once more. -/
def sha2Plugin : String := "caching_sha2_password"

/-- The way to authenticate that sends the password as it is. -/
def clearPlugin : String := "mysql_clear_password"

/-- The proof of a password by SHA-1. -/
def nativeProof (password scramble : Bytes) : Bytes :=
  let once := Sha1.digest password
  xorBytes once (Sha1.digest (scramble ++ Sha1.digest once))

/-- The proof of a password by SHA-256. -/
def sha2Proof (password scramble : Bytes) : Bytes :=
  let once := Sha256.digest password
  xorBytes once (Sha256.digest (Sha256.digest once ++ scramble))

/-- The password followed by a zero byte. -/
def clearProof (password : Bytes) : Bytes :=
  password ++ [0]

/-- The proof of a password for a way to authenticate.  An empty password has an empty proof. -/
def proof (plugin password : String) (scramble : Bytes) : Except Error Bytes :=
  if password = "" then .ok []
  else if plugin = nativePlugin ∨ plugin = "" then
    .ok (nativeProof (Text.encode password) scramble)
  else if plugin = sha2Plugin then .ok (sha2Proof (Text.encode password) scramble)
  else if plugin = clearPlugin then .ok (clearProof (Text.encode password))
  else .error (.auth (.unsupportedPlugin plugin))

end MariaClient.Auth
