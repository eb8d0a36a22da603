import MariaClient.Account
import MariaClient.Toml.Quoted

/-!
# Accounts in TOML documents

An account is a table.  What it leaves out has its usual value, and names that mean nothing are
passed over.  `toToml` writes every member that has a value.
-/

namespace MariaClient

open Toml

namespace Toml.Item

/-- A text. -/
def string? : Item → Option String
  | string s => some s
  | _ => none

/-- A truth value. -/
def boolean? : Item → Option Bool
  | boolean b => some b
  | _ => none

/-- An unsigned number of so many bits. -/
def unsigned? (bits : Nat) : Item → Option Nat
  | integer n => if Text.fitsUnsigned bits n then some n.toNat else none
  | _ => none

/-- The name under which a date or a time stands where a table is asked for. -/
def momentName : String := "$__toml_private_datetime"

/-- Texts under names. -/
def dictionary? : Item → Option (Dictionary String)
  | table _ members => do
    let pairs ← members.mapM fun (name, item) ↦ do return (name, ← item.string?)
    return Dictionary.ofPairs pairs
  | moment text => some [(momentName, text)]
  | _ => none

/-- The members of a table.  The items of an array are its members in the order of the names. -/
def members? (names : List String) : Item → Option Members
  | table _ members => some members
  | array items => some (names.zip items)
  | tables items => some (names.zip items)
  | moment text => some [(momentName, string text)]
  | _ => none

end Toml.Item

/-- The value under a name, or the usual one if the name is missing. -/
def Toml.Members.getD {α : Type} (members : Members) (name : String) (read : Item → Option α)
    (usual : α) : Option α :=
  match members.get? name with
  | some item => read item
  | none => some usual

/-- The value under a name, if the name is not missing. -/
def Toml.Members.opt {α : Type} (members : Members) (name : String) (read : Item → Option α) :
    Option (Option α) :=
  members.getD name (fun item ↦ (read item).map some) none

/-- Reads the keys and certificates of a connection. -/
def SslOptions.ofItem? (item : Item) : Option SslOptions := do
  let m ← item.members?
    ["key", "certificate", "ca", "ca_path", "cipher", "verify_server_cert"]
  return {
    key := ← m.opt "key" Item.string?
    certificate := ← m.opt "certificate" Item.string?
    ca := ← m.opt "ca" Item.string?
    caPath := ← m.opt "ca_path" Item.string?
    cipher := ← m.opt "cipher" Item.string?
    verifyServerCert := ← m.getD "verify_server_cert" Item.boolean? false }

/-- Reads what happens to errors. -/
def ErrorPolicy.ofItem? (item : Item) : Option ErrorPolicy := do
  let m ← item.members? ["log", "raise"]
  return {
    log := ← m.getD "log" Item.boolean? true
    raise := ← m.getD "raise" Item.boolean? true }

namespace Account

/-- The account of a document's members. -/
def ofMembers? (m : Members) : Option Account := do
  let usual : Account := {}
  return {
    hostName := ← m.getD "host_name" Item.string? usual.hostName
    userName := ← m.getD "user_name" Item.string? usual.userName
    password := ← m.getD "password" Item.string? usual.password
    schema := ← m.getD "schema" Item.string? usual.schema
    port := ← m.getD "port" (Item.unsigned? 16) usual.port
    unixSocket := ← m.opt "unix_socket" Item.string?
    ssl := ← m.opt "ssl" SslOptions.ofItem?
    autoCommit := ← m.getD "auto_commit" Item.boolean? usual.autoCommit
    options := ← m.getD "options" Item.dictionary? usual.options
    connectOptions := ← m.getD "connect_options" Item.dictionary? usual.connectOptions
    errors := ← m.getD "errors" ErrorPolicy.ofItem? usual.errors }

/-- Reads an account. -/
def ofToml (s : String) : Except Error Account :=
  match (Toml.read? s).bind ofMembers? with
  | some a => .ok a
  | none => .error (.config (.document "invalid account document"))

/-- A line with a value under a key. -/
def keyLine (name : String) (value : List Char) : List Char :=
  writeKey name ++ [' ', '=', ' '] ++ value ++ ['\n']

/-- A line with a text under a key. -/
def textLine (name value : String) : List Char :=
  keyLine name (writeString value)

/-- A line with a truth value under a key. -/
def flagLine (name : String) (b : Bool) : List Char :=
  keyLine name (if b then ['t', 'r', 'u', 'e'] else ['f', 'a', 'l', 's', 'e'])

/-- A line with a text under a key, or none. -/
def optLine (name : String) (value : Option String) : List Char :=
  (value.map (textLine name)).getD []

/-- The lines of a table after an empty line. -/
def tableLines (name : String) (lines : List Char) : List Char :=
  '\n' :: '[' :: name.toList ++ [']', '\n'] ++ lines

/-- The lines of texts under names. -/
def dictionaryLines (d : Dictionary String) : List Char :=
  d.flatMap fun (name, value) ↦ textLine name value

/-- The lines of keys and certificates. -/
def sslLines (o : SslOptions) : List Char :=
  optLine "key" o.key ++ optLine "certificate" o.certificate ++ optLine "ca" o.ca ++
    optLine "ca_path" o.caPath ++ optLine "cipher" o.cipher ++
    flagLine "verify_server_cert" o.verifyServerCert

/-- The document of an account. -/
def toToml (a : Account) : String :=
  String.ofList <|
    textLine "host_name" a.hostName ++ textLine "user_name" a.userName ++
    textLine "password" a.password ++ textLine "schema" a.schema ++
    keyLine "port" (Text.digits a.port) ++ optLine "unix_socket" a.unixSocket ++
    flagLine "auto_commit" a.autoCommit ++
    (a.ssl.map fun o ↦ tableLines "ssl" (sslLines o)).getD [] ++
    tableLines "options" (dictionaryLines a.options) ++
    tableLines "connect_options" (dictionaryLines a.connectOptions) ++
    tableLines "errors" (flagLine "log" a.errors.log ++ flagLine "raise" a.errors.raise)

end Account

end MariaClient
