import MariaClient.Session.Server
import MariaClient.Wire.Execute

/-!
# Scripted servers

A server that answers from lists and keeps a log of what it was asked.  It shows how a session
behaves without a network.
-/

namespace MariaClient

open Wire

/-- What a server was asked. -/
inductive Call
  | connect (address : String)
  | ask (r : Request)
  | close
  deriving DecidableEq, Repr

/-- The line of a log about a call. -/
def Call.line : Call → String
  | connect address => "CONNECT " ++ address
  | ask (.query sql) => "QUERY " ++ sql
  | ask (.selectDb schema) => "INIT_DB " ++ schema
  | ask (.prepare sql) => "PREPARE " ++ sql
  | ask (.execute id params) => "EXECUTE " ++ hex (executeCommand id params)
  | ask (.closeStatement id) => "CLOSE " ++ Text.ofNat 0 id
  | ask .ping => "PING"
  | close => "QUIT"

/-- The answers of a server and its log.  Of `connects`, `selects`, `pings`, `closes` and
`executions` each call uses up one; afterwards all calls succeed.  Of the answers under a
statement's text the last one stays. -/
structure Script where
  connects : List (Option Error) := []
  selects : List (Option Error) := []
  pings : List (Option Error) := []
  closes : List (Option Error) := []
  queries : List (String × List (Except Error (List QueryResult))) := []
  prepares : List (String × List (Except Error (Nat × List Column))) := []
  executions : List (Nat × List (Except Error StatementResult)) := []
  prepared : Nat := 0
  log : List Call := []

namespace Script

/-- The version of a scripted server. -/
def version : String := "11.4.2-MariaDB-scripted"

/-- The log with one more call. -/
def note (c : Call) (s : Script) : Script :=
  { s with log := s.log ++ [c] }

/-- The outcome of a call that only succeeds or fails. -/
def outcomeOf : List (Option Error) → Except Error Unit
  | some e :: _ => .error e
  | _ => .ok ()

/-- Takes the first answer under a key.  If it is the last one, `keep` says whether it stays. -/
def take {κ α : Type} [DecidableEq κ] (keep : Bool) (key : κ) :
    List (κ × List α) → Option α × List (κ × List α)
  | [] => (none, [])
  | (other, answers) :: rest =>
    if key = other then
      match answers with
      | [] => (none, (other, []) :: rest)
      | [x] => (some x, (other, if keep then [x] else []) :: rest)
      | x :: y :: more => (some x, (other, y :: more) :: rest)
    else
      let (found, rest) := take keep key rest
      (found, (other, answers) :: rest)

/-- The number of places for parameters in a statement. -/
def placeholders (sql : String) : Nat :=
  sql.toList.count '?'

/-- Runs statements.  One that the script does not know changes nothing. -/
def query (sql : String) : Attempt Script (List QueryResult) := fun s ↦
  let (found, queries) := take true sql s.queries
  (found.getD (.ok [.done {}]), { s with queries })

/-- Prepares a statement.  Those that could be prepared are numbered from one. -/
def prepare (sql : String) : Attempt Script Prepared := fun s ↦
  let (found, prepares) := take true sql s.prepares
  match found.getD (.ok (placeholders sql, [])) with
  | .error e => (.error e, { s with prepares })
  | .ok (params, columns) =>
    let id := s.prepared + 1
    (.ok { id, params, columns }, { s with prepares, prepared := id })

/-- Executes a statement.  Past the end of the script it changes one row. -/
def execute (id : Nat) : Attempt Script StatementResult := fun s ↦
  let (found, executions) := take false id s.executions
  (found.getD (.ok (.done { affectedRows := 1 })), { s with executions })

/-- Answers a request. -/
def answer : (r : Request) → Attempt Script r.Answer
  | .query sql => query sql
  | .selectDb _ => fun s ↦ (outcomeOf s.selects, { s with selects := s.selects.tail })
  | .prepare sql => prepare sql
  | .execute id _ => execute id
  | .closeStatement _ => fun s ↦ (outcomeOf s.closes, { s with closes := s.closes.tail })
  | .ping => fun s ↦ (outcomeOf s.pings, { s with pings := s.pings.tail })

/-- The server that answers from a script and notes every call before it answers. -/
def server : Server Script where
  connect account := fun s ↦
    let s := s.note (.connect account.address)
    ((outcomeOf s.connects).map fun _ ↦ version, { s with connects := s.connects.tail })
  ask r := fun s ↦ answer r (s.note (.ask r))
  close := note .close

end Script

end MariaClient
