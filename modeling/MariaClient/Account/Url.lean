import MariaClient.Account
import MariaClient.Text.Split

/-!
# Accounts from URLs

A URL names a user, a password, a host, a port, a schema and settings of the connection, of which
all may be left out.  The parts stand as they are; nothing in them is escaped.
-/

namespace MariaClient.Account

open Text

/-- The schemes of a URL. -/
def schemes : List String :=
  ["mariadb://", "mysql://"]

/-- The account of the user and the password in front of the host.  The first colon ends the
user. -/
def withCredentials (a : Account) (s : List Char) : Account :=
  match splitFirst ':' s with
  | some (user, password) =>
    { a with userName := String.ofList user, password := String.ofList password }
  | none => { a with userName := String.ofList s }

/-- The account of another host, unless none is named. -/
def withHost (a : Account) (host : List Char) : Account :=
  if host = [] then a else { a with hostName := String.ofList host }

/-- The account of a host that may have a port.  The last colon begins the port. -/
def withHostAndPort (a : Account) (s : List Char) : Except Error Account :=
  match splitLast ':' s with
  | some (host, port) =>
    match unsignedWord? 16 port with
    | some n => .ok ({ a with port := n }.withHost host)
    | none => .error (.config (.port (String.ofList port)))
  | none => .ok (a.withHost s)

/-- The account with one more setting, or another socket. -/
def withParameter (a : Account) (s : List Char) : Account :=
  let (name, value) := (splitFirst '=' s).getD (s, [])
  if name = ['s', 'o', 'c', 'k', 'e', 't'] then
    { a with unixSocket := some (String.ofList value) }
  else a.setConnectOption (String.ofList name) (String.ofList value)

/-- The account with settings between ampersands. -/
def withParameters (a : Account) (s : List Char) : Account :=
  ((pieces '&' s).filter (· ≠ [])).foldl withParameter a

/-- The account of the part of a URL after its scheme.  The first question mark begins the
settings, the last `@` before it ends the credentials, and the first slash after that begins the
schema. -/
def ofAuthority (s : List Char) : Except Error Account := do
  let (place, parameters) := (splitFirst '?' s).getD (s, [])
  let (a, place) := match splitLast '@' place with
    | some (credentials, place) => (({} : Account).withCredentials credentials, place)
    | none => ({}, place)
  let (host, schema) := (splitFirst '/' place).getD (place, [])
  let a ← { a with schema := String.ofList schema }.withHostAndPort host
  return a.withParameters parameters

/-- The account of a URL. -/
def ofUrl (url : String) : Except Error Account :=
  match schemes.findSome? fun scheme ↦ after? scheme.toList url.toList with
  | some rest => ofAuthority rest
  | none => .error (.config (.scheme url))

end MariaClient.Account
