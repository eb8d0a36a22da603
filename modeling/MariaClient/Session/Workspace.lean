import MariaClient.Session.Statement
import MariaClient.Session.Transaction

/-!
# Workspaces

One session with the statements, transactions and save points that are alive on it, and the
operations on all of them.  A transaction does not end before its save points: those that are
still open are dropped first, the newest one before the others.
-/

namespace MariaClient

/-- Something that is alive on a session.  A save point knows the number of its transaction. -/
inductive Entity
  | statement (s : Statement)
  | transaction (t : Transaction)
  | savePoint (owner : Nat) (p : SavePoint)
  deriving DecidableEq, Repr

/-- A session with everything that is alive on it under numbers, the newest first. -/
structure Workspace (σ : Type) where
  link : Link σ
  entities : List (Nat × Entity) := []
  next : Nat := 1

/-- What can be done in a workspace. -/
inductive Operation
  | connect
  | disconnect
  | ping
  | setSchema (schema : String)
  | setAutoCommit (on : Bool)
  | execute (sql : String)
  | insert (sql : String)
  | query (sql : String)
  | prepare (sql : String)
  | setParam (statement index : Nat) (value : Param)
  | executeStatement (statement : Nat)
  | insertStatement (statement : Nat)
  | queryStatement (statement : Nat)
  | start (isolation : IsolationLevel) (snapshot : Bool)
  | finish (transaction : Nat) (commit : Bool)
  | createSavePoint (transaction : Nat)
  | releaseSavePoint (savePoint : Nat)
  | drop (entity : Nat)
  deriving DecidableEq, Repr

/-- What an operation gives. -/
inductive Outcome
  | nothing
  | flag (b : Bool)
  | count (n : Nat)
  | rows (rs : ResultSet)
  | created (number : Nat)
  deriving DecidableEq, Repr

namespace Workspace

variable {σ α : Type} (srv : Server σ) (a : Account)

/-- The workspace of an account before its first client. -/
def start (server : σ) : Workspace σ :=
  { link := { session := Session.start a, server } }

/-- A step on the session. -/
def onLink (x : Attempt (Link σ) α) : Attempt (Workspace σ) α := fun w ↦
  let (r, link) := x w.link
  (r, { w with link })

/-- What is alive under a number. -/
def find? (w : Workspace σ) (number : Nat) : Option Entity :=
  w.entities.lookup number

/-- The statement under a number. -/
def statement? (w : Workspace σ) (number : Nat) : Option Statement :=
  match w.find? number with
  | some (.statement s) => some s
  | _ => none

/-- The transaction under a number. -/
def transaction? (w : Workspace σ) (number : Nat) : Option Transaction :=
  match w.find? number with
  | some (.transaction t) => some t
  | _ => none

/-- The save point under a number. -/
def savePoint? (w : Workspace σ) (number : Nat) : Option SavePoint :=
  match w.find? number with
  | some (.savePoint _ p) => some p
  | _ => none

/-- Puts something new under the next number. -/
def add (e : Entity) : Attempt (Workspace σ) Outcome := fun w ↦
  (.ok (.created w.next),
    { w with entities := (w.next, e) :: w.entities, next := w.next + 1 })

/-- Puts something else under a number. -/
def replace (number : Nat) (e : Entity) (w : Workspace σ) : Workspace σ :=
  { w with entities := w.entities.map fun (n, old) ↦ (n, if n = number then e else old) }

/-- Forgets what is under a number. -/
def forget (number : Nat) (w : Workspace σ) : Workspace σ :=
  { w with entities := w.entities.filter fun (n, _) ↦ n != number }

/-- Cleans up after something that is dropped. -/
def cleanUp (e : Entity) (l : Link σ) : Link σ :=
  match e with
  | .statement s => s.drop srv l
  | .transaction t => t.drop srv l
  | .savePoint _ p => p.drop srv l

/-- A save point of the transaction under a number. -/
def ownedBy (number : Nat) : Entity → Bool
  | .savePoint owner _ => owner == number
  | _ => false

/-- Drops everything that passes a test, the newest first. -/
def dropWhere (p : Nat → Entity → Bool) (w : Workspace σ) : Workspace σ :=
  { w with
    link := (w.entities.filter fun (n, e) ↦ p n e).foldl (fun l (_, e) ↦ cleanUp srv e l) w.link
    entities := w.entities.filter fun (n, e) ↦ !p n e }

/-- Drops what is under a number, and before it the save points of a transaction. -/
def dropEntity (number : Nat) (w : Workspace σ) : Workspace σ :=
  dropWhere srv (fun n e ↦ n == number || ownedBy number e) w

/-- Drops everything that is alive. -/
def dropAll (w : Workspace σ) : Workspace σ :=
  dropWhere srv (fun _ _ ↦ true) w

/-- A step on the statement under a number. -/
def withStatement (number : Nat) (x : Statement → Attempt (Link σ) Outcome) :
    Attempt (Workspace σ) Outcome := fun w ↦
  match w.statement? number with
  | some s => onLink (x s) w
  | none => (.ok .nothing, w)

/-- Gives a parameter of the statement under a number a value. -/
def setParam (number index : Nat) (value : Param) : Attempt (Workspace σ) Outcome := fun w ↦
  match w.statement? number with
  | some s =>
    match s.set index value with
    | .ok s => (.ok .nothing, w.replace number (.statement s))
    | .error e => (.error e, w)
  | none => (.ok .nothing, w)

/-- Ends the transaction under a number after its save points were dropped. -/
def finish (number : Nat) (commit : Bool) : Attempt (Workspace σ) Outcome := fun w ↦
  match w.transaction? number with
  | some t =>
    onLink (do return .flag (← t.finish srv a commit))
      ((dropWhere srv (fun _ e ↦ ownedBy number e) w).forget number)
  | none => (.ok .nothing, w)

/-- Sets a save point in the transaction under a number.  Its name is used up even if it cannot
be set. -/
def createSavePoint (number : Nat) : Attempt (Workspace σ) Outcome := fun w ↦
  match w.transaction? number with
  | some t =>
    (do
      onLink (t.counted.lastSavePoint.create srv a)
      add (.savePoint number t.counted.lastSavePoint))
      (w.replace number (.transaction t.counted))
  | none => (.ok .nothing, w)

/-- Keeps what was done since the save point under a number. -/
def releaseSavePoint (number : Nat) : Attempt (Workspace σ) Outcome := fun w ↦
  match w.savePoint? number with
  | some p => onLink (do return .flag (← p.release srv a)) (w.forget number)
  | none => (.ok .nothing, w)

/-- Performs an operation.  One on a number under which nothing fitting is alive does nothing. -/
def perform : Operation → Attempt (Workspace σ) Outcome
  | .connect => onLink do return .flag (← Connection.connect srv a)
  | .disconnect => fun w ↦ (.ok .nothing, { w with link := Connection.disconnect srv w.link })
  | .ping => onLink do return .flag (← Connection.ping srv a)
  | .setSchema schema => onLink do return .flag (← Connection.setSchema srv a schema)
  | .setAutoCommit on => onLink do return .flag (← Connection.setAutoCommit srv a on)
  | .execute sql => onLink do return .count (← Connection.execute srv a sql)
  | .insert sql => onLink do return .count (← Connection.insert srv a sql)
  | .query sql => onLink do return .rows (← Connection.query srv a sql)
  | .prepare sql => do add (.statement (← onLink (Statement.prepare srv a sql)))
  | .setParam number index value => setParam number index value
  | .executeStatement number =>
    withStatement number fun s ↦ do return .count (← s.execute srv a)
  | .insertStatement number =>
    withStatement number fun s ↦ do return .count (← s.insert srv a)
  | .queryStatement number =>
    withStatement number fun s ↦ do return .rows (← s.query srv a)
  | .start isolation snapshot => do
    add (.transaction (← onLink (Transaction.start srv a isolation snapshot)))
  | .finish number commit => finish srv a number commit
  | .createSavePoint number => createSavePoint srv a number
  | .releaseSavePoint number => releaseSavePoint srv a number
  | .drop number => fun w ↦ (.ok .nothing, dropEntity srv number w)

/-- Performs operations one after the other and gives the outcome of each. -/
def performAll : List Operation → Workspace σ → List (Except Error Outcome) × Workspace σ
  | [], w => ([], w)
  | op :: ops, w =>
    let (r, w) := perform srv a op w
    let (rs, w) := performAll ops w
    (r :: rs, w)

end Workspace

end MariaClient
