import MariaClient.Client.Reply
import MariaClient.Wire.Execute

/-!
# Exchanges

The commands of a client, each with the reply that belongs to it.  Closing a statement and saying
goodbye have none.
-/

namespace MariaClient.Channel

open Wire

/-- Sends a command. -/
def send (payload : Bytes) : Attempt Channel Unit :=
  Attempt.update (sendCommand payload)

/-- Sends a command whose reply only tells of success or failure. -/
def simple (payload : Bytes) : Attempt Channel Unit := do
  send payload
  discard readChecked

/-- Runs a text of statements. -/
def query (sql : String) : Attempt Channel (List QueryResult) := do
  send (queryCommand sql)
  readReplies Reply.toQueryResult

/-- Selects a database. -/
def selectDb (schema : String) : Attempt Channel Unit :=
  simple (command CommandCode.initDb.byte (Text.encode schema))

/-- Asks whether the server is there. -/
def ping : Attempt Channel Unit :=
  simple (command CommandCode.ping.byte [])

/-- Prepares a statement.  The definitions of its parameters carry nothing that is of use. -/
def prepare (sql : String) : Attempt Channel Prepared := do
  send (command CommandCode.prepare.byte (Text.encode sql))
  let ok ← PrepareOk.parse (← readChecked)
  let _ ← readColumns ok.params
  let columns ← readColumns ok.columns
  return { id := ok.statementId, params := ok.params, columns }

/-- Executes a prepared statement.  Of several replies the first one counts. -/
def execute (id : Nat) (params : List Binding) : Attempt Channel StatementResult := do
  send (executeCommand id params)
  let results ← readReplies fun reply ↦ .ok reply.toStatementResult
  return results.headD (.done {})

/-- Forgets a prepared statement. -/
def closeStatement (id : Nat) : Attempt Channel Unit :=
  send (closeStatementCommand id)

/-- Says goodbye. -/
def quit (c : Channel) : Channel :=
  c.sendCommand [CommandCode.quit.byte]

/-- Sends a request and takes its reply. -/
def ask : (r : Request) → Attempt Channel r.Answer
  | .query sql => query sql
  | .selectDb schema => selectDb schema
  | .prepare sql => prepare sql
  | .execute id params => execute id params
  | .closeStatement id => closeStatement id
  | .ping => ping

end MariaClient.Channel
