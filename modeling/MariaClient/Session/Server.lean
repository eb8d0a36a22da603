import MariaClient.Account
import MariaClient.Attempt
import MariaClient.Binding
import MariaClient.Wire.Column

/-!
# Servers

What a session may ask of a client and how a client answers.  A server is anything that connects
clients and answers for them; a session has one client at a time.
-/

namespace MariaClient

open Wire

/-- One result of a query. -/
inductive QueryResult
  | done (d : Done)
  | rows (columns : List Column) (rows : List (List (Option Bytes)))
  deriving DecidableEq, Repr

/-- The number of rows that a query changed. -/
def QueryResult.affectedRows : QueryResult → Nat
  | done d => d.affectedRows
  | rows .. => 0

/-- The number that a query gave to a new row. -/
def QueryResult.lastInsertId? : QueryResult → Option Nat
  | done d => some d.lastInsertId
  | rows .. => none

/-- The result of executing a prepared statement. -/
inductive StatementResult
  | done (d : Done)
  | rows (columns : List Column) (packets : List Bytes)
  deriving DecidableEq, Repr

/-- A statement that the server has prepared. -/
structure Prepared where
  id : Nat
  params : Nat
  columns : List Column := []
  deriving DecidableEq, Repr

/-- What can be asked of a client. -/
inductive Request
  | query (sql : String)
  | selectDb (schema : String)
  | prepare (sql : String)
  | execute (id : Nat) (params : List Binding)
  | closeStatement (id : Nat)
  | ping
  deriving DecidableEq, Repr

/-- What a client answers. -/
@[reducible] def Request.Answer : Request → Type
  | query _ => List QueryResult
  | selectDb _ => Unit
  | prepare _ => Prepared
  | execute .. => StatementResult
  | closeStatement _ => Unit
  | ping => Unit

/-- Connects clients and answers for them.  Connecting gives the version of the server. -/
structure Server (σ : Type) where
  connect : Account → Attempt σ String
  ask : (r : Request) → Attempt σ r.Answer
  close : σ → σ

end MariaClient
