import MariaClient.Session.Connection
import MariaClient.Session.Source

/-!
# Prepared statements

A statement belongs to the client that prepared it.  Its parameters keep their values from one
execution to the next.
-/

namespace MariaClient

open Wire

/-- A prepared statement with the values of its parameters. -/
structure Statement where
  id : Nat
  sql : String
  params : List Binding
  columns : List Column
  generation : Nat
  deriving DecidableEq, Repr

namespace Statement

variable {σ : Type} (srv : Server σ) (a : Account)

/-- Prepares a statement.  A failure is always an error, since no statement is neutral. -/
def prepare (sql : String) : Attempt (Link σ) Statement :=
  Connection.run srv a none fun generation ↦ do
    let p ← srv.ask (.prepare sql)
    return {
      id := p.id, sql
      params := Bindings.fresh p.params
      columns := p.columns
      generation }

/-- Gives a parameter a value. -/
def set (s : Statement) (index : Nat) (value : Param) : Except Error Statement := do
  let params ← Bindings.modify s.params index value.bind
  return { s with params }

/-- Gives a parameter the bytes of a source.  A parameter that is not there is refused before
anything is read, and it keeps its value if the source cannot be read to its end. -/
def setBlob (index : Nat) : Attempt (Statement × Source) Unit := fun (s, source) ↦
  match Bindings.get s.params index with
  | .error e => (.error e, s, source)
  | .ok b =>
    match source.readToEnd with
    | (.error e, rest) => (.error e, s, rest)
    | (.ok data, rest) =>
      (.ok (), { s with params := s.params.set index ((Param.blob data).bind b) }, rest)

/-- Executes a statement.  There is no result if the account hides errors and one arose. -/
def run (s : Statement) : Attempt (Link σ) (Option StatementResult) :=
  Connection.runIn srv a s.generation (some none) do
    return some (← srv.ask (.execute s.id s.params))

/-- Executes a statement and counts the rows that it changed or gave. -/
def execute (s : Statement) : Attempt (Link σ) Nat := do
  match ← s.run srv a with
  | some (.done d) => return d.affectedRows
  | some (.rows _ packets) => return packets.length
  | none => return 0

/-- Executes a statement and gives the number of the row that it made. -/
def insert (s : Statement) : Attempt (Link σ) Nat := do
  match ← s.run srv a with
  | some (.done d) => return d.lastInsertId
  | _ => return 0

/-- Executes a statement and gives its rows.  Columns that the result does not tell are those that
were told when the statement was prepared. -/
def query (s : Statement) : Attempt (Link σ) ResultSet := do
  match ← s.run srv a with
  | some (.rows columns packets) =>
    return ResultSet.ofBinary (if columns = [] then s.columns else columns) packets
  | _ => return .empty

/-- Forgets a statement. -/
def drop (s : Statement) (l : Link σ) : Link σ :=
  Connection.quietly srv s.generation (.closeStatement s.id) l

end Statement

end MariaClient
