import MariaClient.Scheduler.Job

/-!
# The board

What the callers and the workers of a scheduler share: the queue of tasks, the jobs that are
remembered and the number of workers.  Every operation here is one step that nobody else can
interrupt.
-/

namespace MariaClient

/-- The queue, the oldest task first, and the jobs under their handles.  `next` is the handle of
the next job.  It stands for a counter of 64 bits and is meant for fewer than `2 ^ 64` jobs. -/
structure Board where
  queue : List Task := []
  jobs : List (Nat × Job) := []
  next : Nat := 1
  workers : Nat := 0
  maxWorkers : Nat := 1
  deriving DecidableEq, Repr

namespace Board

/-- The job under a handle. -/
def job? (b : Board) (handle : Nat) : Option Job :=
  b.jobs.lookup handle

/-- The job under a handle in another state. -/
def setState (handle : Nat) (state : JobState) (b : Board) : Board :=
  { b with jobs := b.jobs.map fun (h, j) ↦ (h, if h = handle then { j with state } else j) }

/-- Forgets the job under a handle. -/
def forget (handle : Nat) (b : Board) : Board :=
  { b with jobs := b.jobs.filter fun (h, _) ↦ h != handle }

/-! ## What callers do -/

/-- One more worker may begin. -/
def hasRoom (b : Board) : Bool :=
  b.workers < b.maxWorkers

/-- Puts a job at the end of the queue.  A worker is counted for it if one may begin. -/
def submit (kind : JobKind) (target : JobTarget) (keep : Bool) (b : Board) : Board :=
  { b with
    queue := b.queue ++ [{ handle := b.next, kind, target }]
    jobs := b.jobs ++ [(b.next, { keep })]
    next := b.next + 1
    workers := if b.hasRoom then b.workers + 1 else b.workers }

/-- What can be seen of a job. -/
def status (b : Board) (handle : Nat) : JobStatus :=
  ((b.job? handle).map (·.state.status)).getD .removed

/-- The output of a job that succeeded. -/
def output (b : Board) (handle : Nat) : Except Error JobOutput :=
  match b.job? handle with
  | none => .error (.unknownHandle handle)
  | some j =>
    match j.state with
    | .waiting | .executing => .error (.jobPending handle)
    | .failed e => .error (.jobFailed handle e.message)
    | .succeeded out => .ok out

/-- The number that a job gave. -/
def count (b : Board) (handle : Nat) : Except Error Nat := do
  (← b.output handle).count? handle

/-- Takes the rows of a job, which can be done once. -/
def take (handle : Nat) : Attempt Board ResultSet := fun b ↦
  match b.output handle with
  | .error e => (.error e, b)
  | .ok out => (out.rows? handle, b.setState handle (.succeeded out.afterTaking))

/-- Forgets a job, and tells whether it was remembered. -/
def release (handle : Nat) (b : Board) : Bool × Board :=
  ((b.job? handle).isSome, b.forget handle)

/-! ## What workers do -/

/-- Takes the oldest task.  If there is none, the worker is no longer counted. -/
def pop (b : Board) : Option Task × Board :=
  match b.queue with
  | task :: queue => (some task, { b with queue }.setState task.handle .executing)
  | [] => (none, { b with workers := b.workers - 1 })

/-- Records how a job went, if it is still remembered. -/
def complete (handle : Nat) (result : Except Error JobOutput) (b : Board) : Board :=
  match b.job? handle with
  | none => b
  | some j => if j.keep then b.setState handle (.ofResult result) else b.forget handle

/-! ## When no worker can begin -/

/-- Fails the oldest of the tasks that wait, until there are none. -/
def failAll (e : Error) : List Task → Board → Board
  | [], b => { b with queue := [] }
  | task :: queue, b => failAll e queue ({ b with queue }.complete task.handle (.error e))

/-- Puts a job at the end of the queue, and then finds that no worker can begin.  If there is none
that could take it later, everything that waits fails. -/
def submitAlone (kind : JobKind) (target : JobTarget) (keep : Bool) (e : Error) (b : Board) :
    Board :=
  let b' := { b.submit kind target keep with workers := b.workers }
  if b.hasRoom && b.workers == 0 then failAll e b'.queue b' else b'

end Board

end MariaClient
