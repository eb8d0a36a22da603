import MariaClient.ResultSet
import MariaClient.Session.Server

/-!
# Connections

A session with a server.  Operations connect when they have to, bring a new client into the state
that the session has recorded, and record their errors.  Errors that leave the client in an
unknown state end it.  Whether a caller sees an error or a neutral value is up to the account.
-/

namespace MariaClient

/-- The last error of a session. -/
structure RecordedError where
  code : Nat
  message : String
  deriving DecidableEq, Repr

/-- What a session has recorded.  Every client that is ready for use begins a new generation, which
stands for a counter of 64 bits and is meant for fewer than `2 ^ 64` clients. -/
structure Session where
  connected : Bool := false
  schema : String := ""
  autoCommit : Bool := true
  lastError : Option RecordedError := none
  generation : Nat := 0
  serverVersion : String := ""
  deriving DecidableEq, Repr

/-- The session of an account before its first client. -/
def Session.start (a : Account) : Session :=
  { schema := a.schema, autoCommit := a.autoCommit }

/-- A session and the server that it talks to. -/
structure Link (σ : Type) where
  session : Session
  server : σ

namespace Link

variable {σ α : Type}

/-- A step of the server. -/
def onServer (x : Attempt σ α) : Attempt (Link σ) α := fun l ↦
  let (r, server) := x l.server
  (r, { l with server })

/-- The link with another record of the session. -/
def record (f : Session → Session) (l : Link σ) : Link σ :=
  { l with session := f l.session }

end Link

namespace Connection

variable {σ α : Type} (srv : Server σ) (a : Account)

/-! ## Clients -/

/-- The statement that turns automatic commits on or off. -/
def autoCommitSql (on : Bool) : String :=
  if on then "SET autocommit=1" else "SET autocommit=0"

/-- Brings a new client into the state of the session. -/
def prepareClient (s : Session) : Attempt σ Unit := do
  if !s.autoCommit then discard (srv.ask (.query (autoCommitSql false)))
  if s.schema ≠ "" then srv.ask (.selectDb s.schema)
  a.options.forM fun (name, value) ↦
    discard (srv.ask (.query ("SET OPTION " ++ name ++ "=" ++ value)))

/-- Connects a client and prepares it.  One that cannot be prepared is closed. -/
def newClient (s : Session) : Attempt σ String := do
  let version ← srv.connect a
  match ← (prepareClient srv a s).outcome with
  | .ok () => return version
  | .error e =>
    Attempt.update srv.close
    Attempt.fail e

/-- Makes sure that there is a client. -/
def open? : Attempt (Link σ) Unit := fun l ↦
  if l.session.connected then (.ok (), l)
  else match newClient srv a l.session l.server with
    | (.error e, server) => (.error e, { l with server })
    | (.ok serverVersion, server) =>
      (.ok (),
        { session :=
            { l.session with
              connected := true
              generation := l.session.generation + 1
              serverVersion }
          server })

/-- Ends the client if there is one. -/
def disconnect (l : Link σ) : Link σ :=
  if l.session.connected then
    { session := { l.session with connected := false }, server := srv.close l.server }
  else l

/-! ## Errors -/

/-- What a caller sees of an error: a neutral value if there is one and the account does not
raise errors. -/
def visible (neutral : Option α) (e : Error) : Except Error α :=
  match neutral with
  | some v => if a.errors.raise then .error e else .ok v
  | none => .error e

/-- Records how an operation went. -/
def settle (neutral : Option α) (r : Except Error α) : Attempt (Link σ) α := fun l ↦
  match r with
  | .ok v => (.ok v, l.record fun s ↦ { s with lastError := none })
  | .error e =>
    let l := l.record fun s ↦ { s with lastError := some ⟨e.code, e.message⟩ }
    (visible a neutral e, if e.breaksConnection then disconnect srv l else l)

/-- Settles a step that may fail. -/
def settled (neutral : Option α) (x : Attempt (Link σ) α) : Attempt (Link σ) α := do
  settle srv a neutral (← x.outcome)

/-- A step on a client, which is connected first if there is none.  The step is told the
generation of the client. -/
def run (neutral : Option α) (x : Nat → Attempt σ α) : Attempt (Link σ) α :=
  settled srv a neutral do
    open? srv a
    let l ← Attempt.state
    Link.onServer (x l.session.generation)

/-- The client of the given generation is still there. -/
def alive (generation : Nat) (l : Link σ) : Bool :=
  l.session.connected && l.session.generation == generation

/-- A step on the client of a generation. -/
def within (generation : Nat) (x : Attempt σ α) : Attempt (Link σ) α := fun l ↦
  if alive generation l then Link.onServer x l else (.error .notConnected, l)

/-- A settled step on the client of a generation. -/
def runIn (generation : Nat) (neutral : Option α) (x : Attempt σ α) : Attempt (Link σ) α :=
  settled srv a neutral (within generation x)

/-- A request to the client of a generation whose outcome does not matter. -/
def quietly (generation : Nat) (r : Request) (l : Link σ) : Link σ :=
  if alive generation l then { l with server := (srv.ask r l.server).2 } else l

/-! ## Operations -/

/-- Connects if there is no client. -/
def connect : Attempt (Link σ) Bool :=
  run srv a (some false) fun _ ↦ return true

/-- Asks whether the server is there. -/
def ping : Attempt (Link σ) Bool :=
  run srv a (some false) fun _ ↦ do
    srv.ask .ping
    return true

/-- Asks the server to use another schema. -/
def selectSchema (schema : String) : Attempt (Link σ) Bool :=
  run srv a (some false) fun _ ↦ do
    srv.ask (.selectDb schema)
    return true

/-- Uses another schema, also for later clients. -/
def setSchema (schema : String) : Attempt (Link σ) Bool := do
  let changed ← selectSchema srv a schema
  if changed then Attempt.update (Link.record fun s ↦ { s with schema })
  return changed

/-- Asks the server to turn automatic commits on or off. -/
def sendAutoCommit (on : Bool) : Attempt (Link σ) Bool :=
  run srv a (some false) fun _ ↦ do
    discard (srv.ask (.query (autoCommitSql on)))
    return true

/-- Turns automatic commits on or off, also for later clients.  Nothing is asked of the server if
that is how they are. -/
def setAutoCommit (on : Bool) : Attempt (Link σ) Bool := do
  let l ← Attempt.state
  if l.session.autoCommit = on then return true
  let changed ← sendAutoCommit srv a on
  if changed then Attempt.update (Link.record fun s ↦ { s with autoCommit := on })
  return changed

/-- The number of rows that all results together changed, as a word of 64 bits. -/
def affectedRows (results : List QueryResult) : Nat :=
  (results.map (·.affectedRows)).sum % 2 ^ 64

/-- The number that the last statement without rows gave to a new row. -/
def lastInsertId (results : List QueryResult) : Nat :=
  (results.reverse.findSome? (·.lastInsertId?)).getD 0

/-- The rows of the first result that has any. -/
def firstRows (results : List QueryResult) : ResultSet :=
  (results.findSome? fun
    | .rows columns rows => some (ResultSet.ofText columns rows)
    | .done _ => none).getD .empty

/-- Runs statements and counts the rows that they changed. -/
def execute (sql : String) : Attempt (Link σ) Nat :=
  run srv a (some 0) fun _ ↦ do return affectedRows (← srv.ask (.query sql))

/-- Runs statements and gives the number of the row that the last one made. -/
def insert (sql : String) : Attempt (Link σ) Nat :=
  run srv a (some 0) fun _ ↦ do return lastInsertId (← srv.ask (.query sql))

/-- Runs statements and gives the rows of the first that has any. -/
def query (sql : String) : Attempt (Link σ) ResultSet :=
  run srv a (some .empty) fun _ ↦ do return firstRows (← srv.ask (.query sql))

end Connection

end MariaClient
