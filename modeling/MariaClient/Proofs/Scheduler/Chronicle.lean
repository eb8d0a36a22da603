import MariaClient.Proofs.Scheduler.Docket

/-!
# Chronicles

Callers and workers of a scheduler may act in any order, jobs may break off, others may use the
server, and the system may refuse to begin a worker.  Each such deed takes the docket of the
scheduler some steps further (`Chronicle.steps_step`), and so does a run of them
(`Chronicle.steps_after`).
-/

namespace MariaClient

namespace Scheduler

variable {σ : Type} (srv : Server σ)

/-- Giving a parameter a value changes the statements. -/
theorem setParam_eq (number index : Nat) (value : Param) (s : Scheduler σ) :
    ∃ statements, (s.setParam number index value).2 = { s with statements } := by
  unfold setParam
  split
  · exact ⟨_, rfl⟩
  · split
    · exact ⟨_, rfl⟩
    · exact ⟨_, rfl⟩

/-! ## Deeds -/

/-- What happens to a scheduler: what callers and workers do, a job that is submitted while no
worker can begin, and another limit for the number of workers.  While a worker goes on, others may
use the server too (`amid`).  To the worker it then is as if another server answered. -/
inductive Deed (σ : Type)
  | act (action : Action σ)
  | amid (worker : Nat) (others : Server σ)
  | submitAlone (kind : JobKind) (target : JobTarget) (keep : Bool) (fault : IoFault)
  | limit (maxWorkers : Nat)

/-- The task that the worker of a number is busy with. -/
def busy? (number : Nat) (s : Scheduler σ) : Option (Worker × Task) :=
  match s.worker? number with
  | none => none
  | some w =>
    match w.phase with
    | .busy task => some (w, task)
    | _ => none

namespace Deed

/-- What is left by a deed. -/
def perform (s : Scheduler σ) : Deed σ → Scheduler σ
  | act action => (Watched.step srv { scheduler := s } action).scheduler
  | amid number others => (Watched.step others { scheduler := s } (.advance number)).scheduler
  | submitAlone kind target keep fault => (s.submitAlone kind target keep fault).2
  | limit maxWorkers => s.limit maxWorkers

/-- The task that is submitted by a deed, under the handle that its caller is given, and whether
the job is to be kept. -/
def submits? (s : Scheduler σ) : Deed σ → Option (Task × Bool)
  | act (.submit kind target keep) =>
    some ({ handle := (s.submit kind target keep).1, kind, target }, keep)
  | submitAlone kind target keep fault =>
    some ({ handle := (s.submitAlone kind target keep fault).1, kind, target }, keep)
  | _ => none

/-- The tasks that end by a deed.  A worker that has run its task has the outcome of it.  If there
is no worker and none can begin, all tasks that wait fail. -/
def endings (s : Scheduler σ) : Deed σ → List Ending
  | act (.advance number) =>
    (s.busy? number).toList.map fun (w, task) ↦ (task, s.outcome srv w task)
  | amid number others =>
    (s.busy? number).toList.map fun (w, task) ↦ (task, s.outcome others w task)
  | act (.abort number ..) =>
    (s.busy? number).toList.map fun (_, task) ↦ (task, .error .aborted)
  | submitAlone kind target keep fault =>
    if s.board.hasRoom && s.board.workers == 0 then
      (s.board.submit kind target keep).queue.map fun task ↦ (task, .error (.noWorker fault))
    else []
  | _ => []

/-- The handle that is released by a deed. -/
def releases? : Deed σ → Option Nat
  | act (.release handle) => some handle
  | _ => none

end Deed

/-- A scheduler with all jobs that were submitted and how tasks ended, the oldest first. -/
structure Chronicle (σ : Type) where
  scheduler : Scheduler σ
  submitted : List (Task × Bool) := []
  ended : List Ending := []

namespace Chronicle

/-- A scheduler for an account before its first job. -/
def start (a : Account) (maxWorkers : Nat) (server : σ) : Chronicle σ :=
  { scheduler := Scheduler.start a maxWorkers server }

/-- What is left by a deed. -/
def step (v : Chronicle σ) (deed : Deed σ) : Chronicle σ where
  scheduler := deed.perform srv v.scheduler
  submitted := v.submitted ++ (deed.submits? v.scheduler).toList
  ended := v.ended ++ deed.endings srv v.scheduler

/-- What is left by the first deeds of a run. -/
def after (v : Chronicle σ) (deeds : Nat → Deed σ) : Nat → Chronicle σ
  | 0 => v
  | k + 1 => (after v deeds k).step srv (deeds k)

/-- A task has ended once, and so. -/
def Ended (v : Chronicle σ) (task : Task) (result : Except Error JobOutput) : Prop :=
  v.ended.filter (fun x ↦ x.1.handle == task.handle) = [(task, result)]

/-! ## The docket of a scheduler -/

/-- The docket of a scheduler. -/
def docket (v : Chronicle σ) : Docket where
  board := v.scheduler.board
  members := v.scheduler.members
  nextMember := v.scheduler.nextWorker
  submitted := v.submitted
  ended := v.ended

variable {v : Chronicle σ} {released : Nat → Prop}

/-- A deed that submits no job and ends no task. -/
theorem step_of_quiet (deed : Deed σ) {s : Scheduler σ}
    (hperform : deed.perform srv v.scheduler = s) (hsubmits : deed.submits? v.scheduler = none)
    (hendings : deed.endings srv v.scheduler = []) :
    v.step srv deed = { v with scheduler := s } := by
  simp [step, hperform, hsubmits, hendings]

/-- A worker that is moved, with what else may have changed. -/
theorem docket_move {w : Worker} {first last : List (Nat × Phase)} {s : Scheduler σ}
    (hmembers : s.members = first ++ (w.number, w.phase) :: last)
    (hdistinct : (s.members.map Prod.fst).Nodup) (phase : Phase) (submitted : List (Task × Bool))
    (ended : List Ending) :
    ({ scheduler := s.move w.number phase, submitted, ended } : Chronicle σ).docket =
      { board := s.board
        members := first ++ (w.number, phase) :: last
        nextMember := s.nextWorker
        submitted
        ended } := by
  rw [docket, members_move hmembers hdistinct]
  rfl

theorem steps_submit (kind : JobKind) (target : JobTarget) (keep : Bool) :
    v.docket.Steps released (v.step srv (.act (.submit kind target keep))).docket := by
  refine .head (.submit { handle := v.scheduler.board.next, kind, target } keep rfl) ?_
  by_cases hroom : v.scheduler.board.hasRoom = true
  · refine .head .enlist <|
      .head (.count (v.scheduler.board.workers + 1) v.scheduler.board.maxWorkers) <|
        Docket.Steps.of_eq ?_
    simp [docket, Docket.submit, step, Deed.perform, Deed.submits?, Deed.endings, Watched.step,
      Scheduler.submit, Board.submit, members, hroom]
  · refine Docket.Steps.of_eq ?_
    simp [docket, Docket.submit, step, Deed.perform, Deed.submits?, Deed.endings, Watched.step,
      Scheduler.submit, Board.submit, members, hroom]

/-- All tasks that wait fail. -/
theorem steps_failAll (e : Error) (queue : List Task) (d : Docket)
    (hqueue : d.board.queue = queue) :
    d.Steps released
      { d with
        board := Board.failAll e queue d.board
        ended := d.ended ++ queue.map fun task ↦ (task, .error e) } := by
  induction queue generalizing d with
  | nil =>
    rw [Board.failAll, List.map_nil, List.append_nil, ← hqueue]
    exact .refl
  | cons task queue ih =>
    have hrest : (Board.complete task.handle (.error e) { d.board with queue }).queue = queue :=
      (Board.agrees_complete ..).1
    have hsteps := ih
      { d with
        board := Board.complete task.handle (.error e) { d.board with queue }
        ended := d.ended ++ [(task, .error e)] } hrest
    rw [List.append_assoc] at hsteps
    exact .head (.fail task queue e hqueue) hsteps

theorem steps_submitAlone (kind : JobKind) (target : JobTarget) (keep : Bool) (fault : IoFault) :
    v.docket.Steps released (v.step srv (.submitAlone kind target keep fault)).docket := by
  refine .head (.submit { handle := v.scheduler.board.next, kind, target } keep rfl) ?_
  by_cases hnone : (v.scheduler.board.hasRoom && v.scheduler.board.workers == 0) = true
  · refine (steps_failAll (.noWorker fault) _ _ rfl).trans (Docket.Steps.of_eq ?_)
    simp [docket, Docket.submit, step, Deed.perform, Deed.submits?, Deed.endings,
      Scheduler.submitAlone, Board.submitAlone, Board.submit, members, hnone]
  · refine Docket.Steps.of_eq ?_
    simp [docket, Docket.submit, step, Deed.perform, Deed.submits?, Deed.endings,
      Scheduler.submitAlone, Board.submitAlone, Board.submit, members, hnone]

section Workers

variable {w : Worker} {number : Nat} {first last : List (Nat × Phase)}

theorem members_split {s : Scheduler σ} (hfind : s.worker? number = some w) :
    ∃ first last, s.members = first ++ (w.number, w.phase) :: last :=
  Watched.members_split (v := ⟨s, [], []⟩) (List.mem_of_find?_eq_some hfind)

/-- What a worker does that is not busy. -/
theorem step_advance (hfind : v.scheduler.worker? number = some w)
    (hidle : v.scheduler.busy? number = none) :
    v.step srv (.act (.advance number)) =
      { v with scheduler := v.scheduler.advance srv w } := by
  refine step_of_quiet srv _ ?_ rfl ?_
  · simp [Deed.perform, Watched.step, hfind]
  · simp [Deed.endings, hidle]

/-- A worker that looks for a task takes the oldest, or finds that there is none. -/
theorem steps_pop (hv : v.docket.Sound)
    (hsplit : v.scheduler.members = first ++ (w.number, w.phase) :: last)
    (hphase : w.phase = .idle) :
    v.docket.Steps released { v with scheduler := v.scheduler.pop w : Chronicle σ }.docket := by
  have hmoved (board : Board) (phase : Phase) := docket_move (s := { v.scheduler with board })
    hsplit hv.distinct phase v.submitted v.ended
  rw [hphase] at hsplit
  rcases hqueue : v.scheduler.board.queue with _ | ⟨task, queue⟩
  · have hpop : v.scheduler.pop w =
        { v.scheduler with
          board := { v.scheduler.board with workers := v.scheduler.board.workers - 1 } }.move
            w.number .leaving := by
      simp [pop, Board.pop, hqueue]
    rw [hpop, hmoved]
    exact .head (.count (v.scheduler.board.workers - 1) v.scheduler.board.maxWorkers)
      (.single (.move first last w.number .idle .leaving hsplit rfl rfl))
  · have hpop : v.scheduler.pop w =
        { v.scheduler with
          board := { v.scheduler.board with queue }.setState task.handle .executing }.move
            w.number (.busy task) := by
      simp [pop, Board.pop, hqueue]
    rw [hpop, hmoved]
    exact .single (.pop first last w.number task queue hsplit hqueue)

/-- A worker goes on. -/
theorem steps_advance (hv : v.docket.Sound) (number : Nat) :
    v.docket.Steps released (v.step srv (.act (.advance number))).docket := by
  rcases hfind : v.scheduler.worker? number with _ | w
  · rw [step_of_quiet srv (.act (.advance number)) (s := v.scheduler)
      (by simp [Deed.perform, Watched.step, hfind]) rfl (by simp [Deed.endings, busy?, hfind])]
    exact .refl
  obtain ⟨first, last, hsplit⟩ := members_split hfind
  cases hphase : w.phase with
  | starting =>
    rw [step_advance srv hfind (by simp [busy?, hfind, hphase]), advance, hphase]
    dsimp only
    rw [docket_move hsplit hv.distinct]
    rw [hphase] at hsplit
    exact .single (.move first last w.number .starting .idle hsplit rfl rfl)
  | idle =>
    rw [step_advance srv hfind (by simp [busy?, hfind, hphase]), advance, hphase]
    exact steps_pop hv hsplit hphase
  | busy task =>
    obtain ⟨s, hrun, hmembers, hboard, hnextWorker⟩ := run_eq_move srv w task v.scheduler
    have hstep : v.step srv (.act (.advance number)) =
        { v with
          scheduler := v.scheduler.run srv w task
          ended := v.ended ++ [(task, v.scheduler.outcome srv w task)] } := by
      simp [step, Deed.perform, Deed.submits?, Deed.endings, Watched.step, hfind, busy?, hphase,
        advance]
    rw [hstep, hrun, docket_move (hmembers.trans hsplit) (hmembers ▸ hv.distinct), hboard,
      hnextWorker]
    rw [hphase] at hsplit
    exact .single (.run first last w.number task _ hsplit)
  | finished task result =>
    rw [step_advance srv hfind (by simp [busy?, hfind, hphase]), advance, hphase]
    dsimp only [complete]
    rw [docket_move (s := { v.scheduler with
      board := v.scheduler.board.complete task.handle result }) hsplit hv.distinct]
    rw [hphase] at hsplit
    exact .single (.record first last w.number task result hsplit)
  | leaving =>
    have hleft : ({ v with scheduler := v.scheduler.leave srv w } : Chronicle σ).docket =
        { v.docket with members := first ++ last } := by
      rw [docket, members_leave srv hsplit hv.distinct]
      rfl
    rw [step_advance srv hfind (by simp [busy?, hfind, hphase]), advance, hphase]
    dsimp only
    rw [hleft]
    rw [hphase] at hsplit
    exact .single (.leave first last w.number .leaving hsplit rfl)

/-- The job of a worker breaks off. -/
theorem steps_abort (hv : v.docket.Sound) (number : Nat) (session : Session)
    (statements : List (Nat × SharedStatement)) (server : σ) :
    v.docket.Steps released
      (v.step srv (.act (.abort number session statements server))).docket := by
  have hquiet (hbusy : v.scheduler.busy? number = none)
      (hperform : (Deed.act (.abort number session statements server)).perform srv v.scheduler =
        v.scheduler) :
      v.docket.Steps released
        (v.step srv (.act (.abort number session statements server))).docket := by
    rw [step_of_quiet srv _ hperform rfl (by simp [Deed.endings, hbusy])]
    exact .refl
  rcases hfind : v.scheduler.worker? number with _ | w
  · exact hquiet (by simp [busy?, hfind]) (by simp [Deed.perform, Watched.step, hfind])
  obtain ⟨first, last, hsplit⟩ := members_split hfind
  cases hphase : w.phase with
  | busy task =>
    have hstep : v.step srv (.act (.abort number session statements server)) =
        { v with
          scheduler := v.scheduler.abort w task session statements server
          ended := v.ended ++ [(task, .error .aborted)] } := by
      simp [step, Deed.perform, Deed.submits?, Deed.endings, Watched.step, hfind, busy?, hphase]
    have hmembers := members_keepSession (s := { v.scheduler with statements, server })
      w.number session
    rw [hstep, abort, docket_move (hmembers.trans hsplit) (hmembers ▸ hv.distinct)]
    rw [hphase] at hsplit
    exact .single (.run first last w.number task _ hsplit)
  | _ =>
    refine hquiet ?_ ?_
    · simp [busy?, hfind, hphase]
    · simp [Deed.perform, Watched.step, hfind, hphase]

end Workers

/-- Every deed takes the docket some steps further, which release no other job than it does. -/
theorem steps_step (hv : v.docket.Sound) (deed : Deed σ) :
    v.docket.Steps (fun handle ↦ deed.releases? = some handle) (v.step srv deed).docket := by
  cases deed with
  | amid number others => exact steps_advance others hv number
  | submitAlone kind target keep fault => exact steps_submitAlone srv kind target keep fault
  | limit maxWorkers =>
    rw [step_of_quiet srv (.limit maxWorkers) rfl rfl rfl]
    exact .single (.count v.scheduler.board.workers (max 1 maxWorkers))
  | act action =>
    cases action with
    | submit kind target keep => exact steps_submit srv kind target keep
    | prepare sql =>
      obtain ⟨statements, next, server, hprepare⟩ := prepare_eq srv sql v.scheduler
      rw [step_of_quiet srv (.act (.prepare sql)) hprepare rfl rfl]
      exact .refl
    | setParam number index value =>
      obtain ⟨statements, hset⟩ := setParam_eq number index value v.scheduler
      rw [step_of_quiet srv (.act (.setParam number index value)) hset rfl rfl]
      exact .refl
    | take handle =>
      rw [step_of_quiet srv (.act (.take handle)) rfl rfl rfl]
      exact .single (.take handle)
    | release handle =>
      rw [step_of_quiet srv (.act (.release handle)) rfl rfl rfl]
      exact .single (.forget handle rfl)
    | advance number => exact steps_advance srv hv number
    | abort number session statements server =>
      exact steps_abort srv hv number session statements server
    | outside statements server =>
      rw [step_of_quiet srv (.act (.outside statements server)) rfl rfl rfl]
      exact .refl

/-! ## Runs -/

theorem sound_start (a : Account) (maxWorkers : Nat) (server : σ) :
    (start a maxWorkers server).docket.Sound where
  distinct := List.nodup_nil
  fresh _ _ hmem := absurd hmem List.not_mem_nil
  handles := rfl
  next := rfl
  blank _ _ := rfl
  stories _ _ hmem := absurd hmem List.not_mem_nil

variable (deeds : Nat → Deed σ)

theorem sound_after (hv : v.docket.Sound) (k : Nat) : (v.after srv deeds k).docket.Sound := by
  induction k with
  | zero => exact hv
  | succ k ih => exact (steps_step srv ih (deeds k)).sound ih

/-- The deeds between two points of a run take the docket some steps further. -/
theorem steps_after (hv : v.docket.Sound) {k j : Nat} (hkj : k ≤ j) :
    (v.after srv deeds k).docket.Steps
      (fun handle ↦ ∃ i, k ≤ i ∧ i < j ∧ (deeds i).releases? = some handle)
      (v.after srv deeds j).docket := by
  induction hkj with
  | refl => exact .refl
  | @step j hkj ih =>
    have hstep := steps_step srv (sound_after srv deeds hv j) (deeds j)
    refine Relation.ReflTransGen.trans (ih.mono ?_) (hstep.mono ?_)
    · rintro handle ⟨i, hki, hij, hrel⟩
      exact ⟨i, hki, Nat.lt_succ_of_lt hij, hrel⟩
    · intro handle hrel
      exact ⟨j, hkj, Nat.lt_succ_self j, hrel⟩

end Chronicle

end Scheduler

end MariaClient
