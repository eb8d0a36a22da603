import MariaClient.Scheduler.Workers

/-!
# The story of a job

All that a scheduler has under one handle: the tasks that wait, the workers that are busy with them,
the job if it is remembered, and how tasks ended.  This changes in few ways (`Sight.Turn`), whoever
acts.  A job that was submitted once stays in its story (`Sight.Story.turn`): it waits, it is run,
it has ended and then its result is recorded.  What can be seen of it only moves forward
(`Sight.Story.forward`).
-/

namespace MariaClient

namespace JobStatus

/-- How far a job has come. -/
def stage : JobStatus → Nat
  | waiting => 0
  | executing => 1
  | succeeded | failed => 2
  | removed => 3

/-- From one status to a later one.  A job that has succeeded never fails, and one that has failed
never succeeds. -/
def Forward (a b : JobStatus) : Prop :=
  a = b ∨ a.stage < b.stage

namespace Forward

theorem refl (a : JobStatus) : Forward a a :=
  .inl rfl

theorem trans {a b c : JobStatus} (hab : Forward a b) (hbc : Forward b c) : Forward a c := by
  rcases hab with rfl | hab
  · exact hbc
  · rcases hbc with rfl | hbc
    · exact .inr hab
    · exact .inr (Nat.lt_trans hab hbc)

theorem removed (a : JobStatus) : Forward a .removed := by
  cases a with
  | removed => exact .inl rfl
  | _ => exact .inr (by decide)

/-- A job that was removed stays so. -/
theorem eq_removed {b : JobStatus} (h : Forward .removed b) : b = .removed := by
  cases b with
  | removed => rfl
  | _ => rcases h with h | h <;> revert h <;> decide

end Forward

end JobStatus

namespace Phase

/-- The task that a worker is busy with. -/
def task? : Phase → Option Task
  | busy task => some task
  | finished task _ => some task
  | _ => none

end Phase

/-- A task with what came of it. -/
abbrev Ending := Task × Except Error JobOutput

namespace Job

/-- The job once a worker has begun with it. -/
def begun (j : Job) : Job :=
  { j with state := .executing }

/-- The job once its result is recorded, if it is still remembered. -/
def recorded (result : Except Error JobOutput) (j : Job) : Option Job :=
  if j.keep then some { j with state := .ofResult result } else none

end Job

/-- Everything under one handle. -/
@[ext]
structure Sight where
  queued : List Task
  phases : List Phase
  job : Option Job
  ended : List Ending

namespace Sight

variable {s s' : Sight} {task : Task} {keep : Bool} {released : Prop}

/-- What can be seen of the job. -/
def status (s : Sight) : JobStatus :=
  (s.job.map (·.state.status)).getD .removed

/-- A change of what is under a handle.  A job is only forgotten before its time if it is
released. -/
inductive Turn (released : Prop) (s : Sight) : Sight → Prop
  /-- Something that is of no concern to the job. -/
  | stay : Turn released s s
  /-- A worker takes the task. -/
  | begin (task : Task) (queue : List Task) (first last : List Phase)
    (hqueued : s.queued = task :: queue) (hphases : s.phases = first ++ last) :
    Turn released s
      { s with
        queued := queue
        phases := first ++ .busy task :: last
        job := s.job.map Job.begun }
  /-- A worker has run the task. -/
  | run (task : Task) (result : Except Error JobOutput) (first last : List Phase)
    (hphases : s.phases = first ++ .busy task :: last) :
    Turn released s
      { s with
        phases := first ++ .finished task result :: last
        ended := s.ended ++ [(task, result)] }
  /-- A worker records the result. -/
  | record (task : Task) (result : Except Error JobOutput) (first last : List Phase)
    (hphases : s.phases = first ++ .finished task result :: last) :
    Turn released s
      { s with phases := first ++ last, job := s.job.bind (Job.recorded result) }
  /-- The task fails because there is no worker. -/
  | fail (task : Task) (queue : List Task) (e : Error) (hqueued : s.queued = task :: queue) :
    Turn released s
      { s with
        queued := queue
        job := s.job.bind (Job.recorded (.error e))
        ended := s.ended ++ [(task, .error e)] }
  /-- A caller takes the rows. -/
  | take (keep : Bool) (out : JobOutput) (hjob : s.job = some ⟨keep, .succeeded out⟩) :
    Turn released s { s with job := some ⟨keep, .succeeded out.afterTaking⟩ }
  /-- A caller releases the job. -/
  | forget (hreleased : released) : Turn released s { s with job := none }

/-- A turn to what has the same parts. -/
theorem Turn.trans_eq {s'' : Sight} (h : Turn released s s') (hqueued : s''.queued = s'.queued)
    (hphases : s''.phases = s'.phases) (hjob : s''.job = s'.job) (hended : s''.ended = s'.ended) :
    Turn released s s'' :=
  Sight.ext hqueued hphases hjob hended ▸ h

theorem Turn.of_eq (hqueued : s'.queued = s.queued) (hphases : s'.phases = s.phases)
    (hjob : s'.job = s.job) (hended : s'.ended = s.ended) : Turn released s s' :=
  Turn.stay.trans_eq hqueued hphases hjob hended

/-- A state in which a job may be once its task has ended. -/
def Leaves (result : Except Error JobOutput) (state : JobState) : Prop :=
  state = .ofResult result ∨ ∃ out, result = .ok out ∧ state = .succeeded out.afterTaking

/-- The story of a job.  It may have been released at any point. -/
inductive Story (task : Task) (keep : Bool) : Sight → Prop
  | waiting (job : Option Job) (hjob : ∀ j, job = some j → j = ⟨keep, .waiting⟩) :
    Story task keep ⟨[task], [], job, []⟩
  | running (job : Option Job) (hjob : ∀ j, job = some j → j = ⟨keep, .executing⟩) :
    Story task keep ⟨[], [.busy task], job, []⟩
  | ended (result : Except Error JobOutput) (job : Option Job)
    (hjob : ∀ j, job = some j → j = ⟨keep, .executing⟩) :
    Story task keep ⟨[], [.finished task result], job, [(task, result)]⟩
  | settled (result : Except Error JobOutput) (job : Option Job)
    (hjob : ∀ j, job = some j → keep = true ∧ Leaves result j.state) :
    Story task keep ⟨[], [], job, [(task, result)]⟩

theorem afterTaking_leaves {result : Except Error JobOutput} {out : JobOutput}
    (h : Leaves result (.succeeded out)) : Leaves result (.succeeded out.afterTaking) := by
  rcases h with h | ⟨out', rfl, h⟩
  · rcases result with e | out'
    · cases h
    · cases h
      exact .inr ⟨out, rfl, rfl⟩
  · cases h
    refine .inr ⟨out', rfl, ?_⟩
    cases out' with
    | _ => rfl

/-- What is recorded of a job that was being executed. -/
theorem recorded_leaves {job : Option Job} {result : Except Error JobOutput}
    (hjob : ∀ j, job = some j → j.keep = keep) :
    ∀ j, job.bind (Job.recorded result) = some j → keep = true ∧ Leaves result j.state := by
  intro j hj
  obtain ⟨old, hold, hrecorded⟩ := Option.bind_eq_some_iff.1 hj
  unfold Job.recorded at hrecorded
  split at hrecorded
  next hkeep =>
    cases hrecorded
    exact ⟨(hjob old hold).symm.trans hkeep, .inl rfl⟩
  next => cases hrecorded

/-- Anything holds of a job that is not remembered. -/
theorem of_forgotten {p : Job → Prop} (j : Job) (h : none = some j) : p j := by
  cases h

/-- The only place in a list of one. -/
theorem of_singleton_split {p q : Phase} {first last : List Phase}
    (h : [p] = first ++ q :: last) : q = p ∧ first = [] ∧ last = [] := by
  cases first with
  | nil =>
    obtain ⟨rfl, rfl⟩ := List.cons.inj h
    exact ⟨rfl, rfl, rfl⟩
  | cons r first => simp at h

/-- No turn leads out of a story. -/
theorem Story.turn (h : Story task keep s) (hturn : Turn released s s') : Story task keep s' := by
  cases h with
  | waiting job hjob =>
    cases hturn with
    | stay => exact .waiting job hjob
    | begin task' queue first last hqueued hphases =>
      obtain ⟨rfl, rfl⟩ := List.cons.inj hqueued
      obtain ⟨rfl, rfl⟩ := List.append_eq_nil_iff.1 hphases.symm
      refine .running _ fun j hj ↦ ?_
      obtain ⟨old, hold, rfl⟩ := Option.map_eq_some_iff.1 hj
      rw [hjob old hold]
      rfl
    | run task' result first last hphases => simp at hphases
    | record task' result first last hphases => simp at hphases
    | fail task' queue e hqueued =>
      obtain ⟨rfl, rfl⟩ := List.cons.inj hqueued
      exact .settled (.error e) _ (recorded_leaves fun j hj ↦ by rw [hjob j hj])
    | take keep' out hout =>
      have hwaiting := hjob _ hout
      cases hwaiting
    | forget => exact .waiting none of_forgotten
  | running job hjob =>
    cases hturn with
    | stay => exact .running job hjob
    | begin task' queue first last hqueued => cases hqueued
    | run task' result first last hphases =>
      obtain ⟨hbusy, rfl, rfl⟩ := of_singleton_split hphases
      cases hbusy
      exact .ended result job hjob
    | record task' result first last hphases =>
      cases (of_singleton_split hphases).1
    | fail task' queue e hqueued => cases hqueued
    | take keep' out hout =>
      have hexecuting := hjob _ hout
      cases hexecuting
    | forget => exact .running none of_forgotten
  | ended result job hjob =>
    cases hturn with
    | stay => exact .ended result job hjob
    | begin task' queue first last hqueued => cases hqueued
    | run task' result' first last hphases =>
      cases (of_singleton_split hphases).1
    | record task' result' first last hphases =>
      obtain ⟨hfinished, rfl, rfl⟩ := of_singleton_split hphases
      cases hfinished
      exact .settled result _ (recorded_leaves fun j hj ↦ by rw [hjob j hj])
    | fail task' queue e hqueued => cases hqueued
    | take keep' out hout =>
      have hexecuting := hjob _ hout
      cases hexecuting
    | forget => exact .ended result none of_forgotten
  | settled result job hjob =>
    cases hturn with
    | stay => exact .settled result job hjob
    | begin task' queue first last hqueued => cases hqueued
    | run task' result' first last hphases => simp at hphases
    | record task' result' first last hphases => simp at hphases
    | fail task' queue e hqueued => cases hqueued
    | take keep' out hout =>
      refine .settled result _ fun j hj ↦ ?_
      cases hj
      obtain ⟨hkeep, hleaves⟩ := hjob _ hout
      exact ⟨hkeep, afterTaking_leaves hleaves⟩
    | forget => exact .settled result none of_forgotten

/-! ## What can be seen -/

theorem status_ofResult (result : Except Error JobOutput) :
    (JobState.ofResult result).status = .succeeded ∨
      (JobState.ofResult result).status = .failed := by
  cases result with
  | ok out => exact .inl rfl
  | error e => exact .inr rfl

/-- Recording the result of a job that is not finished moves it forward. -/
theorem forward_recorded {job : Option Job} (result : Except Error JobOutput)
    (hjob : ∀ j, job = some j → j.state.status.stage < 2) :
    JobStatus.Forward ((job.map (·.state.status)).getD .removed)
      (((job.bind (Job.recorded result)).map (·.state.status)).getD .removed) := by
  cases job with
  | none => exact .refl _
  | some j =>
    rw [Option.bind_some, Job.recorded]
    split
    · refine .inr (Nat.lt_of_lt_of_le (hjob j rfl) ?_)
      rcases status_ofResult result with h | h <;> simp [h, JobStatus.stage]
    · exact .removed _

/-- What can be seen of a job that was submitted only moves forward. -/
theorem Story.forward (h : Story task keep s) (hturn : Turn released s s') :
    s.status.Forward s'.status := by
  cases hturn with
  | stay => exact .refl _
  | begin task' queue first last hqueued hphases =>
    cases h with
    | waiting job hjob =>
      cases job with
      | none => exact .refl _
      | some j =>
        rw [hjob j rfl]
        exact .inr Nat.zero_lt_one
    | _ => cases hqueued
  | run => exact .refl _
  | record task' result first last hphases =>
    cases h with
    | ended result' job hjob =>
      refine forward_recorded result fun j hj ↦ ?_
      rw [hjob j hj]
      exact Nat.one_lt_two
    | running job hjob => cases (of_singleton_split hphases).1
    | _ => simp at hphases
  | fail task' queue e hqueued =>
    cases h with
    | waiting job hjob =>
      refine forward_recorded (.error e) fun j hj ↦ ?_
      rw [hjob j hj]
      exact Nat.zero_lt_two
    | _ => cases hqueued
  | take keep' out hjob =>
    refine .inl ?_
    simp [status, hjob, JobState.status]
  | forget => exact .removed _

/-- A job that is not to be kept is never seen to be finished. -/
theorem Story.unkept (h : Story task false s) : s.status.isFinished = false := by
  have hnot (job : Option Job) (state : JobState) (hstate : state.status.isFinished = false)
      (hjob : ∀ j, job = some j → j = ⟨false, state⟩) :
      JobStatus.isFinished ((job.map fun j ↦ j.state.status).getD .removed) = false := by
    cases job with
    | none => rfl
    | some j =>
      rw [hjob j rfl]
      exact hstate
  cases h with
  | waiting job hjob => exact hnot job _ rfl hjob
  | running job hjob => exact hnot job _ rfl hjob
  | ended result job hjob => exact hnot job _ rfl hjob
  | settled result job hjob =>
    cases job with
    | none => rfl
    | some j => cases (hjob j rfl).1

/-- A job with an output or an error has ended, with just this result. -/
theorem Story.leaves (h : Story task keep s) {j : Job} (hj : s.job = some j)
    (hfinished : j.state.status.isFinished = true) :
    ∃ result, s.queued = [] ∧ s.phases = [] ∧ s.ended = [(task, result)] ∧
      Leaves result j.state := by
  cases h with
  | waiting job hjob =>
    rw [hjob j hj] at hfinished
    cases hfinished
  | running job hjob =>
    rw [hjob j hj] at hfinished
    cases hfinished
  | ended result job hjob =>
    rw [hjob j hj] at hfinished
    cases hfinished
  | settled result job hjob => exact ⟨result, rfl, rfl, rfl, (hjob j hj).2⟩

/-! ## Rows that were taken -/

/-- There is nothing to be had of the job any more: its rows were taken, or it was released. -/
structure Spent (s : Sight) : Prop where
  queued : s.queued = []
  phases : s.phases = []
  taken : ∀ j, s.job = some j → j.state = .succeeded .taken

/-- No turn gives anything back.  Only a release makes the job forgotten. -/
theorem Spent.turn (h : s.Spent) (hturn : Turn released s s') :
    s'.Spent ∧ (¬released → s'.job = s.job) := by
  cases hturn with
  | stay => exact ⟨h, fun _ ↦ rfl⟩
  | begin task queue first last hqueued =>
    rw [h.queued] at hqueued
    cases hqueued
  | run task result first last hphases => simp [h.phases] at hphases
  | record task result first last hphases => simp [h.phases] at hphases
  | fail task queue e hqueued =>
    rw [h.queued] at hqueued
    cases hqueued
  | take keep out hjob =>
    have hout := h.taken _ hjob
    cases hout
    refine ⟨⟨h.queued, h.phases, fun j hj ↦ ?_⟩, fun _ ↦ hjob.symm⟩
    cases hj
    rfl
  | forget hreleased =>
    exact ⟨⟨h.queued, h.phases, of_forgotten⟩, fun hkept ↦ absurd hreleased hkept⟩

/-! ## Handles that nobody has -/

/-- There is nothing under the handle. -/
def blank : Sight :=
  ⟨[], [], none, []⟩

/-- Nothing comes of nothing. -/
theorem Turn.eq_blank (h : Turn released blank s) : s = blank := by
  cases h with
  | stay => rfl
  | begin task queue first last hqueued => cases hqueued
  | run task result first last hphases => simp [blank] at hphases
  | record task result first last hphases => simp [blank] at hphases
  | fail task queue e hqueued => cases hqueued
  | take keep out hjob => cases hjob
  | forget => rfl

end Sight

end MariaClient
