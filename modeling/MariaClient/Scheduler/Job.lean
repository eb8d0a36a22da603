import MariaClient.Session.Statement

/-!
# Jobs

A job is a statement to run and what has become of it.  It waits, is executed, and then has an
output or an error.
-/

namespace MariaClient

/-- What is wanted of a statement: the number of rows that it changes, the number of the row that
it makes, or its rows. -/
inductive JobKind
  | execute
  | insert
  | query
  deriving DecidableEq, Repr

/-- What is run: a text of statements, or the prepared statement under a number. -/
inductive JobTarget
  | sql (text : String)
  | statement (number : Nat)
  deriving DecidableEq, Repr

/-- A job that waits for a worker. -/
structure Task where
  handle : Nat
  kind : JobKind
  target : JobTarget
  deriving DecidableEq, Repr

/-- What a job gives.  Rows can be taken once. -/
inductive JobOutput
  | count (n : Nat)
  | rows (rs : ResultSet)
  | taken
  deriving DecidableEq, Repr

/-- What has become of a job. -/
inductive JobState
  | waiting
  | executing
  | succeeded (output : JobOutput)
  | failed (e : Error)
  deriving DecidableEq, Repr

/-- A job, and whether it is remembered once it is finished. -/
structure Job where
  keep : Bool
  state : JobState := .waiting
  deriving DecidableEq, Repr

/-- What can be seen of a job.  Jobs that are not remembered are removed. -/
inductive JobStatus
  | waiting
  | executing
  | succeeded
  | failed
  | removed
  deriving DecidableEq, Repr

namespace JobStatus

/-- The name of a status. -/
def name : JobStatus → String
  | waiting => "Waiting"
  | executing => "Executing"
  | succeeded => "Succeed"
  | failed => "Failed"
  | removed => "Removed"

/-- The job has an output or an error. -/
def isFinished : JobStatus → Bool
  | succeeded | failed => true
  | _ => false

end JobStatus

/-- What can be seen of the state of a job. -/
def JobState.status : JobState → JobStatus
  | waiting => .waiting
  | executing => .executing
  | succeeded _ => .succeeded
  | failed _ => .failed

/-- The state of a job that was run. -/
def JobState.ofResult : Except Error JobOutput → JobState
  | .ok output => .succeeded output
  | .error e => .failed e

namespace JobOutput

/-- The number that an output stands for.  Of rows it is how many there are. -/
def count? (handle : Nat) : JobOutput → Except Error Nat
  | count n => .ok n
  | rows rs => .ok rs.rowCount
  | taken => .error (.resultTaken handle)

/-- The rows of an output. -/
def rows? (handle : Nat) : JobOutput → Except Error ResultSet
  | count _ => .ok .empty
  | rows rs => .ok rs
  | taken => .error (.resultTaken handle)

/-- What is left of an output once its rows were taken. -/
def afterTaking : JobOutput → JobOutput
  | count n => .count n
  | _ => .taken

end JobOutput

namespace JobKind

variable {σ : Type} (srv : Server σ) (a : Account)

/-- Runs a text of statements. -/
def runSql (sql : String) : JobKind → Attempt (Link σ) JobOutput
  | execute => do return .count (← Connection.execute srv a sql)
  | insert => do return .count (← Connection.insert srv a sql)
  | query => do return .rows (← Connection.query srv a sql)

/-- Runs a prepared statement. -/
def runStatement (s : Statement) : JobKind → Attempt (Link σ) JobOutput
  | execute => do return .count (← s.execute srv a)
  | insert => do return .count (← s.insert srv a)
  | query => do return .rows (← s.query srv a)

end JobKind

end MariaClient
