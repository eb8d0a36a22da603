import MariaClient.Scheduler.Board

/-!
# Workers

A scheduler runs jobs on workers, each with a session of its own.  A worker begins, takes tasks as
long as there are any, and leaves.  Its steps may be interleaved with those of the other workers
and of the callers in any order.
-/

namespace MariaClient

/-- Where a worker is in its loop. -/
inductive Phase
  | starting
  | idle
  | busy (task : Task)
  | finished (task : Task) (result : Except Error JobOutput)
  | leaving

/-- A worker with its session. -/
structure Worker where
  number : Nat
  session : Session
  phase : Phase := .starting

/-- A prepared statement that callers and workers share, with the session that it lives on. -/
structure SharedStatement where
  session : Session
  statement : Statement
  deriving DecidableEq, Repr

/-- A scheduler: the board, the workers, the prepared statements under their numbers and the server
that all of them talk to. -/
structure Scheduler (σ : Type) where
  account : Account
  board : Board := {}
  workers : List Worker := []
  nextWorker : Nat := 1
  statements : List (Nat × SharedStatement) := []
  nextStatement : Nat := 1
  server : σ

namespace Scheduler

variable {σ α : Type} (srv : Server σ)

/-- Jobs commit automatically, and their errors are always seen. -/
def jobAccount (a : Account) : Account :=
  { a with autoCommit := true, errors := { a.errors with raise := true } }

/-- A scheduler for an account, with at most so many workers but at least one. -/
def start (a : Account) (maxWorkers : Nat) (server : σ) : Scheduler σ :=
  { account := jobAccount a, board := { maxWorkers := max 1 maxWorkers }, server }

/-- A step on one of the sessions. -/
def onSession (x : Attempt (Link σ) α) (session : Session) (s : Scheduler σ) :
    Except Error α × Session × Scheduler σ :=
  let (r, l) := x { session, server := s.server }
  (r, l.session, { s with server := l.server })

/-! ## What callers do -/

/-- Submits a job and gives its handle.  A worker begins if there is room for one. -/
def submit (kind : JobKind) (target : JobTarget) (keep : Bool) (s : Scheduler σ) :
    Nat × Scheduler σ :=
  let board := s.board.submit kind target keep
  let s' := { s with board }
  (s.board.next,
    if s.board.hasRoom then
      { s' with
        workers := s.workers ++ [{ number := s.nextWorker, session := Session.start s.account }]
        nextWorker := s.nextWorker + 1 }
    else s')

/-- Submits a job and gives its handle, where a worker for which there is room cannot begin. -/
def submitAlone (kind : JobKind) (target : JobTarget) (keep : Bool) (fault : IoFault)
    (s : Scheduler σ) : Nat × Scheduler σ :=
  (s.board.next, { s with board := s.board.submitAlone kind target keep (.noWorker fault) })

/-- Allows at most so many workers from now on, but at least one. -/
def limit (maxWorkers : Nat) (s : Scheduler σ) : Scheduler σ :=
  { s with board := { s.board with maxWorkers := max 1 maxWorkers } }

/-- Prepares a statement on a session of its own and gives its number. -/
def prepare (sql : String) : Attempt (Scheduler σ) Nat := fun s ↦
  match onSession (Statement.prepare srv s.account sql) (Session.start s.account) s with
  | (.error e, _, s) => (.error e, s)
  | (.ok statement, session, s) =>
    (.ok s.nextStatement,
      { s with
        statements := s.statements ++ [(s.nextStatement, { session, statement })]
        nextStatement := s.nextStatement + 1 })

/-- Puts another statement under a number. -/
def putStatement (number : Nat) (shared : SharedStatement) (s : Scheduler σ) : Scheduler σ :=
  { s with statements := s.statements.map fun (n, old) ↦ (n, if n = number then shared else old) }

/-- Gives a parameter of the statement under a number a value. -/
def setParam (number index : Nat) (value : Param) : Attempt (Scheduler σ) Unit := fun s ↦
  match s.statements.lookup number with
  | none => (.ok (), s)
  | some shared =>
    match shared.statement.set index value with
    | .error e => (.error e, s)
    | .ok statement => (.ok (), s.putStatement number { shared with statement })

/-- A step on the board. -/
def onBoard (x : Attempt Board α) : Attempt (Scheduler σ) α := fun s ↦
  let (r, board) := x s.board
  (r, { s with board })

/-- Forgets a job, and tells whether it was remembered. -/
def release (handle : Nat) (s : Scheduler σ) : Bool × Scheduler σ :=
  let (found, board) := s.board.release handle
  (found, { s with board })

/-! ## What workers do -/

/-- Puts a worker into another phase. -/
def move (number : Nat) (phase : Phase) (s : Scheduler σ) : Scheduler σ :=
  { s with workers := s.workers.map fun w ↦ if w.number = number then { w with phase } else w }

/-- The session of a worker after a step on it. -/
def keepSession (number : Nat) (session : Session) (s : Scheduler σ) : Scheduler σ :=
  { s with
    workers := s.workers.map fun w ↦ if w.number = number then { w with session } else w }

/-- Takes the next task, or leaves if there is none. -/
def pop (w : Worker) (s : Scheduler σ) : Scheduler σ :=
  let (task, board) := s.board.pop
  { s with board }.move w.number (task.elim .leaving .busy)

/-- Runs a task: a text on the worker's session, a prepared statement on its own. -/
def run (w : Worker) (task : Task) (s : Scheduler σ) : Scheduler σ :=
  match task.target with
  | .sql text =>
    let (r, session, s) := onSession (task.kind.runSql srv s.account text) w.session s
    (s.keepSession w.number session).move w.number (.finished task r)
  | .statement number =>
    match s.statements.lookup number with
    | none => s.move w.number (.finished task (.error .notConnected))
    | some shared =>
      let (r, session, s) :=
        onSession (task.kind.runStatement srv s.account shared.statement) shared.session s
      (s.putStatement number { shared with session }).move w.number (.finished task r)

/-- Records how a task went. -/
def complete (w : Worker) (task : Task) (result : Except Error JobOutput) (s : Scheduler σ) :
    Scheduler σ :=
  { s with board := s.board.complete task.handle result }.move w.number .idle

/-- Ends the worker's session. -/
def leave (w : Worker) (s : Scheduler σ) : Scheduler σ :=
  { s with
    server := (Connection.disconnect srv { session := w.session, server := s.server }).server
    workers := s.workers.filter fun other ↦ other.number != w.number }

/-- The next step of a worker. -/
def advance (w : Worker) (s : Scheduler σ) : Scheduler σ :=
  match w.phase with
  | .starting => s.move w.number .idle
  | .idle => s.pop w
  | .busy task => s.run srv w task
  | .finished task result => s.complete w task result
  | .leaving => s.leave srv w

/-! ## Letting workers run -/

/-- A worker can go on.  While results are held back, none is recorded. -/
def canAdvance (held : Bool) (w : Worker) : Bool :=
  match w.phase with
  | .finished .. => !held
  | _ => true

/-- The number of steps that a worker in a phase takes if the queue is empty. -/
def phaseSteps : Phase → Nat
  | .starting => 3
  | .idle => 2
  | .busy _ => 4
  | .finished .. => 3
  | .leaving => 1

/-- No more steps than these can be taken before somebody submits a job. -/
def stepsLeft (s : Scheduler σ) : Nat :=
  3 * s.board.queue.length + (s.workers.map fun w ↦ phaseSteps w.phase).sum

/-- Lets workers take so many steps, the one that began first before the others. -/
def advanceUpTo (held : Bool) : Nat → Scheduler σ → Scheduler σ
  | 0, s => s
  | steps + 1, s =>
    match s.workers.find? (canAdvance held) with
    | none => s
    | some w => advanceUpTo held steps (s.advance srv w)

/-- Lets workers run as far as they can. -/
def settle (held : Bool) (s : Scheduler σ) : Scheduler σ :=
  s.advanceUpTo srv held s.stepsLeft

end Scheduler

end MariaClient
