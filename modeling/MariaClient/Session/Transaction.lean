import MariaClient.FieldType
import MariaClient.Session.Connection

/-!
# Transactions

A transaction belongs to the client that began it, and so do its save points.  What is not
committed is rolled back when it is dropped.
-/

namespace MariaClient

/-- A transaction with the number of save points that were asked for in it.  The number stands for a
counter of 32 bits, so it is meant for fewer than `2 ^ 32` save points. -/
structure Transaction where
  generation : Nat
  savePoints : Nat := 0
  deriving DecidableEq, Repr

/-- A save point of a transaction. -/
structure SavePoint where
  generation : Nat
  number : Nat
  deriving DecidableEq, Repr

namespace SavePoint

variable {σ : Type} (srv : Server σ) (a : Account)

/-- The name of a save point. -/
def name (p : SavePoint) : String :=
  "SP" ++ Text.ofNat 0 p.number

/-- The statement that sets a save point. -/
def createSql (p : SavePoint) : String :=
  "SAVEPOINT " ++ p.name

/-- The statement that keeps what was done since a save point. -/
def releaseSql (p : SavePoint) : String :=
  "RELEASE SAVEPOINT " ++ p.name

/-- The statement that takes back what was done since a save point. -/
def rollbackSql (p : SavePoint) : String :=
  "ROLLBACK TO SAVEPOINT " ++ p.name

/-- Sets a save point.  A failure is always an error. -/
def create (p : SavePoint) : Attempt (Link σ) Unit :=
  Connection.runIn srv a p.generation none (discard (srv.ask (.query p.createSql)))

/-- Keeps what was done since a save point. -/
def release (p : SavePoint) : Attempt (Link σ) Bool :=
  Connection.runIn srv a p.generation (some false) do
    discard (srv.ask (.query p.releaseSql))
    return true

/-- Takes back what was done since a save point. -/
def drop (p : SavePoint) (l : Link σ) : Link σ :=
  Connection.quietly srv p.generation (.query p.rollbackSql) l

end SavePoint

namespace Transaction

variable {σ : Type} (srv : Server σ) (a : Account)

/-- The statement that begins a transaction. -/
def startSql (snapshot : Bool) : String :=
  if snapshot then "START TRANSACTION WITH CONSISTENT SNAPSHOT;" else "START TRANSACTION;"

/-- The statement that ends a transaction. -/
def endSql (commit : Bool) : String :=
  if commit then "COMMIT" else "ROLLBACK"

/-- Begins a transaction.  A failure is always an error. -/
def start (isolation : IsolationLevel) (snapshot : Bool) : Attempt (Link σ) Transaction :=
  Connection.run srv a none fun generation ↦ do
    discard (srv.ask (.query isolation.sql))
    discard (srv.ask (.query (startSql snapshot)))
    return { generation }

/-- The transaction after it was asked for one more save point. -/
def counted (t : Transaction) : Transaction :=
  { t with savePoints := t.savePoints + 1 }

/-- The save point that was asked for last. -/
def lastSavePoint (t : Transaction) : SavePoint :=
  { generation := t.generation, number := t.savePoints }

/-- Ends a transaction, keeping what was done in it or not. -/
def finish (t : Transaction) (commit : Bool) : Attempt (Link σ) Bool :=
  Connection.runIn srv a t.generation (some false) do
    discard (srv.ask (.query (endSql commit)))
    return true

/-- Takes back what was done in a transaction. -/
def drop (t : Transaction) (l : Link σ) : Link σ :=
  Connection.quietly srv t.generation (.query (endSql false)) l

end Transaction

end MariaClient
