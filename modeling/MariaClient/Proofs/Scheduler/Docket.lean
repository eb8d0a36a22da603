import MariaClient.Proofs.Scheduler.Conservation
import MariaClient.Proofs.Scheduler.Story
import Mathlib.Logic.Relation

/-!
# Dockets

The board of a scheduler and the workers with their phases, beside all jobs that were submitted and
all endings of tasks.  A docket changes in few ways (`Docket.Step`), and what is under one handle
turns with it (`Docket.Step.turn`).  So each job that was submitted stays in its story
(`Docket.Sound.step`) and is seen to move forward (`Docket.Steps.forward`), and once its rows were
taken nothing more is to be had of it (`Docket.Steps.spent`).
-/

namespace MariaClient

/-! ## One job among the others -/

namespace Board

variable (b : Board) (handle : Nat)

theorem job?_setState (other : Nat) (state : JobState) :
    (b.setState other state).job? handle =
      if handle = other then (b.job? handle).map fun j ↦ { j with state } else b.job? handle := by
  unfold job? setState
  dsimp only
  induction b.jobs with
  | nil => simp
  | cons x jobs ih =>
    obtain ⟨key, j⟩ := x
    rw [List.map_cons, List.lookup_cons, List.lookup_cons]
    by_cases hkey : handle = key
    · subst hkey
      by_cases hother : handle = other <;> simp [hother]
    · simp only [beq_eq_false_iff_ne.2 hkey, ih]

theorem job?_forget (other : Nat) :
    (b.forget other).job? handle = if handle = other then none else b.job? handle := by
  unfold job? forget
  dsimp only
  induction b.jobs with
  | nil => simp
  | cons x jobs ih =>
    obtain ⟨key, j⟩ := x
    by_cases hother : key = other
    · rw [List.filter_cons_of_neg (by simp [hother]), ih, List.lookup_cons]
      subst hother
      by_cases hkey : handle = key
      · rw [if_pos hkey, if_pos hkey]
      · simp only [beq_eq_false_iff_ne.2 hkey]
    · rw [List.filter_cons_of_pos (by simp [hother]), List.lookup_cons, ih, List.lookup_cons]
      by_cases hkey : handle = key
      · subst hkey
        simp [hother]
      · simp only [beq_eq_false_iff_ne.2 hkey]

theorem job?_complete (other : Nat) (result : Except Error JobOutput) :
    (b.complete other result).job? handle =
      if handle = other then (b.job? handle).bind (Job.recorded result) else b.job? handle := by
  unfold complete
  by_cases hother : handle = other
  · subst hother
    rw [if_pos rfl]
    rcases hjob : b.job? handle with _ | j
    · exact hjob
    · dsimp only [Option.bind_some, Job.recorded]
      split
      · rw [job?_setState, if_pos rfl, hjob, Option.map_some]
      · rw [job?_forget, if_pos rfl]
  · rw [if_neg hother]
    split
    · rfl
    · split
      · rw [job?_setState, if_neg hother]
      · rw [job?_forget, if_neg hother]

variable {b handle}

/-- Only a job that succeeded has an output. -/
theorem job?_of_output {out : JobOutput} (h : b.output handle = .ok out) :
    ∃ keep, b.job? handle = some ⟨keep, .succeeded out⟩ := by
  unfold output at h
  split at h
  · cases h
  next j hjob =>
    obtain ⟨keep, state⟩ := j
    cases state with
    | succeeded out' =>
      cases h
      exact ⟨keep, hjob⟩
    | _ => cases h

end Board

/-- A worker in this phase is busy with the task under a handle. -/
def Phase.concerns (handle : Nat) (p : Phase) : Bool :=
  p.task?.any fun task ↦ task.handle == handle

/-- The board and the workers with their phases, all jobs that were submitted and how tasks
ended. -/
structure Docket where
  board : Board
  members : List (Nat × Phase)
  nextMember : Nat
  submitted : List (Task × Bool)
  ended : List Ending

namespace Docket

/-! ## Steps -/

/-- A docket with one more job, under the next handle. -/
def submit (task : Task) (keep : Bool) (d : Docket) : Docket :=
  { d with
    board := { d.board with
      queue := d.board.queue ++ [task]
      jobs := d.board.jobs ++ [(d.board.next, { keep })]
      next := d.board.next + 1 }
    submitted := d.submitted ++ [(task, keep)] }

/-- A step of a docket.  Only jobs under the handles in `released` are released by it. -/
inductive Step (released : Nat → Prop) (d : Docket) : Docket → Prop
  /-- There are other numbers of workers. -/
  | count (workers maxWorkers : Nat) :
    Step released d { d with board := { d.board with workers, maxWorkers } }
  /-- A worker begins. -/
  | enlist :
    Step released d
      { d with
        members := d.members ++ [(d.nextMember, .starting)]
        nextMember := d.nextMember + 1 }
  /-- A job is submitted. -/
  | submit (task : Task) (keep : Bool) (hhandle : task.handle = d.board.next) :
    Step released d (d.submit task keep)
  /-- A worker that has no task goes on. -/
  | move (first last : List (Nat × Phase)) (n : Nat) (p p' : Phase)
    (hmembers : d.members = first ++ (n, p) :: last) (hp : p.task? = none)
    (hp' : p'.task? = none) :
    Step released d { d with members := first ++ (n, p') :: last }
  /-- A worker that has no task is gone. -/
  | leave (first last : List (Nat × Phase)) (n : Nat) (p : Phase)
    (hmembers : d.members = first ++ (n, p) :: last) (hp : p.task? = none) :
    Step released d { d with members := first ++ last }
  /-- A worker takes the oldest task. -/
  | pop (first last : List (Nat × Phase)) (n : Nat) (task : Task) (queue : List Task)
    (hmembers : d.members = first ++ (n, .idle) :: last) (hqueue : d.board.queue = task :: queue) :
    Step released d
      { d with
        board := { d.board with queue }.setState task.handle .executing
        members := first ++ (n, .busy task) :: last }
  /-- A worker has run its task. -/
  | run (first last : List (Nat × Phase)) (n : Nat) (task : Task)
    (result : Except Error JobOutput) (hmembers : d.members = first ++ (n, .busy task) :: last) :
    Step released d
      { d with
        members := first ++ (n, .finished task result) :: last
        ended := d.ended ++ [(task, result)] }
  /-- A worker records the result of its task. -/
  | record (first last : List (Nat × Phase)) (n : Nat) (task : Task)
    (result : Except Error JobOutput)
    (hmembers : d.members = first ++ (n, .finished task result) :: last) :
    Step released d
      { d with
        board := d.board.complete task.handle result
        members := first ++ (n, .idle) :: last }
  /-- The oldest task fails because there is no worker. -/
  | fail (task : Task) (queue : List Task) (e : Error) (hqueue : d.board.queue = task :: queue) :
    Step released d
      { d with
        board := { d.board with queue }.complete task.handle (.error e)
        ended := d.ended ++ [(task, .error e)] }
  /-- A caller takes the rows of a job. -/
  | take (handle : Nat) : Step released d { d with board := (Board.take handle d.board).2 }
  /-- A caller releases a job. -/
  | forget (handle : Nat) (hreleased : released handle) :
    Step released d { d with board := d.board.forget handle }

/-- Any number of steps. -/
def Steps (released : Nat → Prop) : Docket → Docket → Prop :=
  Relation.ReflTransGen (Step released)

variable {d d' : Docket} {released : Nat → Prop} {handle : Nat}

/-- More jobs might be released. -/
theorem Step.mono {released' : Nat → Prop} (h : d.Step released d')
    (himp : ∀ handle, released handle → released' handle) : d.Step released' d' := by
  cases h with
  | count workers maxWorkers => exact .count workers maxWorkers
  | enlist => exact .enlist
  | submit task keep hhandle => exact .submit task keep hhandle
  | move first last n p p' hmembers hp hp' => exact .move first last n p p' hmembers hp hp'
  | leave first last n p hmembers hp => exact .leave first last n p hmembers hp
  | pop first last n task queue hmembers hqueue =>
    exact .pop first last n task queue hmembers hqueue
  | run first last n task result hmembers => exact .run first last n task result hmembers
  | record first last n task result hmembers => exact .record first last n task result hmembers
  | fail task queue e hqueue => exact .fail task queue e hqueue
  | take other => exact .take other
  | forget other hreleased => exact .forget other (himp other hreleased)

/-! ## Under one handle -/

/-- The tasks of a queue under a handle. -/
def waitingUnder (handle : Nat) (queue : List Task) : List Task :=
  queue.filter fun task ↦ task.handle == handle

/-- The phases of the workers that are busy with the task under a handle. -/
def busyUnder (handle : Nat) (members : List (Nat × Phase)) : List Phase :=
  (members.map Prod.snd).filter (Phase.concerns handle)

/-- The endings of tasks under a handle. -/
def endedUnder (handle : Nat) (ended : List Ending) : List Ending :=
  ended.filter fun x ↦ x.1.handle == handle

/-- All that there is under a handle. -/
def sight (d : Docket) (handle : Nat) : Sight where
  queued := waitingUnder handle d.board.queue
  phases := busyUnder handle d.members
  job := d.board.job? handle
  ended := endedUnder handle d.ended

section Lists

variable {task : Task} {queue : List Task} {ended : List Ending}

theorem waitingUnder_own :
    waitingUnder task.handle (task :: queue) = task :: waitingUnder task.handle queue :=
  List.filter_cons_of_pos (beq_self_eq_true _)

theorem waitingUnder_other (hne : task.handle ≠ handle) :
    waitingUnder handle (task :: queue) = waitingUnder handle queue :=
  List.filter_cons_of_neg (by simpa using hne)

theorem endedUnder_own (result : Except Error JobOutput) :
    endedUnder task.handle (ended ++ [(task, result)]) =
      endedUnder task.handle ended ++ [(task, result)] := by
  simp [endedUnder]

theorem endedUnder_other (hne : task.handle ≠ handle) (result : Except Error JobOutput) :
    endedUnder handle (ended ++ [(task, result)]) = endedUnder handle ended := by
  simp [endedUnder, hne]

end Lists

section Members

variable {first last : List (Nat × Phase)} {n : Nat} {p : Phase} {task : Task}

theorem busyUnder_append (first last : List (Nat × Phase)) :
    busyUnder handle (first ++ last) = busyUnder handle first ++ busyUnder handle last := by
  rw [busyUnder, List.map_append, List.filter_append]
  rfl

/-- A worker that is busy with the task under the handle. -/
theorem busyUnder_own (hp : p.task? = some task) :
    busyUnder task.handle (first ++ (n, p) :: last) =
      busyUnder task.handle first ++ p :: busyUnder task.handle last := by
  have hconcerns : p.concerns task.handle = true := by simp [Phase.concerns, hp]
  rw [busyUnder_append]
  refine congrArg (busyUnder task.handle first ++ ·) ?_
  rw [busyUnder, List.map_cons, List.filter_cons_of_pos hconcerns]
  rfl

theorem busyUnder_of_not_concerns (hp : p.concerns handle = false) :
    busyUnder handle (first ++ (n, p) :: last) =
      busyUnder handle first ++ busyUnder handle last := by
  rw [busyUnder_append]
  refine congrArg (busyUnder handle first ++ ·) ?_
  rw [busyUnder, List.map_cons, List.filter_cons_of_neg (Bool.not_eq_true _ ▸ hp)]
  rfl

/-- A worker that is busy with another task. -/
theorem busyUnder_other (hp : p.task? = some task) (hne : task.handle ≠ handle) :
    busyUnder handle (first ++ (n, p) :: last) = busyUnder handle first ++ busyUnder handle last :=
  busyUnder_of_not_concerns (by simp [Phase.concerns, hp, hne])

/-- A worker that has no task. -/
theorem busyUnder_none (hp : p.task? = none) :
    busyUnder handle (first ++ (n, p) :: last) = busyUnder handle first ++ busyUnder handle last :=
  busyUnder_of_not_concerns (by simp [Phase.concerns, hp])

end Members

/-- A step turns what is under a handle, unless it is the handle of a job that is just
submitted. -/
theorem Step.turn (h : d.Step released d')
    (hhandle : handle < d.board.next ∨ d'.board.next ≤ handle) :
    (d.sight handle).Turn (released handle) (d'.sight handle) := by
  cases h with
  | count workers maxWorkers => exact .stay
  | enlist => exact .of_eq rfl ((busyUnder_none rfl).trans (List.append_nil _)) rfl rfl
  | submit task keep htask =>
    have hne : handle ≠ d.board.next := by
      dsimp only [Docket.submit] at hhandle
      omega
    have hqueued : waitingUnder handle (d.board.queue ++ [task]) = (d.sight handle).queued := by
      simp [sight, waitingUnder, htask, hne.symm]
    have hjob : (d.board.jobs ++ [(d.board.next, ({ keep } : Job))]).lookup handle =
        (d.sight handle).job := by
      rw [List.lookup_append, List.lookup_cons, beq_eq_false_iff_ne.2 hne]
      exact Option.or_none
    exact .of_eq hqueued rfl hjob rfl
  | move first last n p p' hmembers hp hp' =>
    have hphases : (d.sight handle).phases = _ := (congrArg _ hmembers).trans (busyUnder_none hp)
    exact .of_eq rfl ((busyUnder_none hp').trans hphases.symm) rfl rfl
  | leave first last n p hmembers hp =>
    have hphases : (d.sight handle).phases = _ := (congrArg _ hmembers).trans (busyUnder_none hp)
    exact .of_eq rfl ((busyUnder_append _ _).trans hphases.symm) rfl rfl
  | pop first last n task queue hmembers hqueue =>
    have hphases : (d.sight handle).phases = _ := (congrArg _ hmembers).trans (busyUnder_none rfl)
    have hjob := Board.job?_setState { d.board with queue } handle task.handle .executing
    by_cases heq : task.handle = handle
    · subst heq
      have hqueued : (d.sight task.handle).queued = _ :=
        (congrArg _ hqueue).trans waitingUnder_own
      exact (Sight.Turn.begin task _ _ _ hqueued hphases).trans_eq rfl (busyUnder_own rfl)
        (hjob.trans (if_pos rfl)) rfl
    · have hqueued : (d.sight handle).queued = _ :=
        (congrArg _ hqueue).trans (waitingUnder_other heq)
      exact .of_eq hqueued.symm ((busyUnder_other rfl heq).trans hphases.symm)
        (hjob.trans (if_neg (Ne.symm heq))) rfl
  | run first last n task result hmembers =>
    by_cases heq : task.handle = handle
    · subst heq
      have hphases : (d.sight task.handle).phases = _ :=
        (congrArg _ hmembers).trans (busyUnder_own rfl)
      exact (Sight.Turn.run task result _ _ hphases).trans_eq rfl (busyUnder_own rfl) rfl
        (endedUnder_own result)
    · have hphases : (d.sight handle).phases = _ :=
        (congrArg _ hmembers).trans (busyUnder_other rfl heq)
      exact .of_eq rfl ((busyUnder_other rfl heq).trans hphases.symm) rfl
        (endedUnder_other heq result)
  | record first last n task result hmembers =>
    have hqueued : waitingUnder handle (d.board.complete task.handle result).queue =
        (d.sight handle).queued :=
      congrArg _ (Board.agrees_complete ..).1
    have hjob := Board.job?_complete d.board handle task.handle result
    by_cases heq : task.handle = handle
    · subst heq
      have hphases : (d.sight task.handle).phases = _ :=
        (congrArg _ hmembers).trans (busyUnder_own rfl)
      exact (Sight.Turn.record task result _ _ hphases).trans_eq hqueued (busyUnder_none rfl)
        (hjob.trans (if_pos rfl)) rfl
    · have hphases : (d.sight handle).phases = _ :=
        (congrArg _ hmembers).trans (busyUnder_other rfl heq)
      exact .of_eq hqueued ((busyUnder_none rfl).trans hphases.symm)
        (hjob.trans (if_neg (Ne.symm heq))) rfl
  | fail task queue e hqueue =>
    have hrest : waitingUnder handle
        (Board.complete task.handle (.error e) { d.board with queue }).queue =
          waitingUnder handle queue :=
      congrArg _ (Board.agrees_complete ..).1
    have hjob := Board.job?_complete { d.board with queue } handle task.handle (.error e)
    by_cases heq : task.handle = handle
    · subst heq
      have hqueued : (d.sight task.handle).queued = _ :=
        (congrArg _ hqueue).trans waitingUnder_own
      exact (Sight.Turn.fail task _ e hqueued).trans_eq hrest rfl (hjob.trans (if_pos rfl))
        (endedUnder_own _)
    · have hqueued : (d.sight handle).queued = _ :=
        (congrArg _ hqueue).trans (waitingUnder_other heq)
      exact .of_eq (hrest.trans hqueued.symm) rfl (hjob.trans (if_neg (Ne.symm heq)))
        (endedUnder_other heq _)
  | take other =>
    rcases hout : d.board.output other with e | out
    · have hboard : (Board.take other d.board).2 = d.board := by simp [Board.take, hout]
      rw [hboard]
      exact .stay
    · have hboard : (Board.take other d.board).2 =
          d.board.setState other (.succeeded out.afterTaking) := by
        simp [Board.take, hout]
      have hjob := Board.job?_setState d.board handle other (.succeeded out.afterTaking)
      rw [hboard]
      by_cases heq : handle = other
      · subst heq
        obtain ⟨keep, hold⟩ := Board.job?_of_output hout
        exact (Sight.Turn.take keep out hold).trans_eq rfl rfl
          (hjob.trans ((if_pos rfl).trans (congrArg _ hold))) rfl
      · exact .of_eq rfl rfl (hjob.trans (if_neg heq)) rfl
  | forget other hreleased =>
    have hjob := Board.job?_forget d.board handle other
    by_cases heq : handle = other
    · subst heq
      exact (Sight.Turn.forget hreleased).trans_eq rfl rfl (hjob.trans (if_pos rfl)) rfl
    · exact .of_eq rfl rfl (hjob.trans (if_neg heq)) rfl

/-! ## What all steps preserve -/

/-- Each worker has a number of its own and each job a handle, and every job is in its story. -/
structure Sound (d : Docket) : Prop where
  distinct : (d.members.map Prod.fst).Nodup
  fresh : ∀ n p, (n, p) ∈ d.members → n < d.nextMember
  handles : d.submitted.map (fun x ↦ x.1.handle) = List.range' 1 d.submitted.length
  next : d.board.next = d.submitted.length + 1
  blank : ∀ handle, d.board.next ≤ handle → d.sight handle = .blank
  stories : ∀ task keep, (task, keep) ∈ d.submitted → (d.sight task.handle).Story task keep

theorem Sound.handle_lt (hd : d.Sound) {task : Task} {keep : Bool}
    (h : (task, keep) ∈ d.submitted) : task.handle < d.board.next := by
  have hmem : task.handle ∈ d.submitted.map fun x ↦ x.1.handle := List.mem_map.2 ⟨_, h, rfl⟩
  rw [hd.handles, List.mem_range'_1] at hmem
  rw [hd.next]
  omega

/-- The numbers of the workers stay distinct. -/
theorem Step.distinct (h : d.Step released d') (hdistinct : (d.members.map Prod.fst).Nodup)
    (hfresh : ∀ n p, (n, p) ∈ d.members → n < d.nextMember) :
    (d'.members.map Prod.fst).Nodup ∧ ∀ n p, (n, p) ∈ d'.members → n < d'.nextMember := by
  cases h with
  | enlist => exact ⟨Crew.distinct_joined hdistinct hfresh _, Crew.fresh_joined hfresh _⟩
  | move first last n p p' hmembers | pop first last n task queue hmembers
  | run first last n task result hmembers | record first last n task result hmembers =>
    rw [hmembers] at hdistinct hfresh
    exact ⟨Crew.distinct_moved hdistinct _, Crew.fresh_moved hfresh _⟩
  | leave first last n p hmembers =>
    rw [hmembers] at hdistinct hfresh
    have hsub : (first ++ last).Sublist (first ++ (n, p) :: last) :=
      (List.sublist_cons_self _ _).append_left _
    exact ⟨hdistinct.sublist (hsub.map _), fun m q hmem ↦ hfresh m q (hsub.subset hmem)⟩
  | _ => exact ⟨hdistinct, hfresh⟩

/-- A step submits no job, or one under the next handle. -/
theorem Step.submits (h : d.Step released d') :
    (d'.board.next = d.board.next ∧ d'.submitted = d.submitted) ∨
      ∃ task keep, task.handle = d.board.next ∧ d'.board.next = d.board.next + 1 ∧
        d'.submitted = d.submitted ++ [(task, keep)] ∧
        (d.sight task.handle = .blank →
          d'.sight task.handle = ⟨[task], [], some { keep }, []⟩) := by
  cases h with
  | submit task keep htask =>
    refine .inr ⟨task, keep, htask, rfl, rfl, fun hblank ↦ ?_⟩
    have hqueued : waitingUnder task.handle (d.board.queue ++ [task]) = [task] := by
      have hnone : waitingUnder task.handle d.board.queue = [] := congrArg Sight.queued hblank
      rw [waitingUnder, List.filter_append, ← waitingUnder, hnone]
      exact waitingUnder_own
    have hjob : (d.board.jobs ++ [(d.board.next, ({ keep } : Job))]).lookup task.handle =
        some { keep } := by
      have hnone : d.board.jobs.lookup task.handle = none := congrArg Sight.job hblank
      rw [List.lookup_append, hnone, htask, List.lookup_cons, beq_self_eq_true]
      rfl
    have hphases : (d.sight task.handle).phases = [] := congrArg Sight.phases hblank
    have hended : (d.sight task.handle).ended = [] := congrArg Sight.ended hblank
    exact Sight.ext hqueued hphases hjob hended
  | record first last n task result => exact .inl ⟨(Board.agrees_complete ..).2.1, rfl⟩
  | fail task queue e => exact .inl ⟨(Board.agrees_complete ..).2.1, rfl⟩
  | take other => exact .inl ⟨(Board.agrees_take ..).2.1, rfl⟩
  | _ => exact .inl ⟨rfl, rfl⟩

theorem Sound.step (hd : d.Sound) (h : d.Step released d') : d'.Sound := by
  obtain ⟨hdistinct, hfresh⟩ := h.distinct hd.distinct hd.fresh
  have hblank (hle : d.board.next ≤ d'.board.next) (handle : Nat) (hnext : d'.board.next ≤ handle) :
      d'.sight handle = .blank := by
    have hturn := h.turn (.inr hnext)
    rw [hd.blank handle (Nat.le_trans hle hnext)] at hturn
    exact hturn.eq_blank
  have hstories (task : Task) (keep : Bool) (hmem : (task, keep) ∈ d.submitted) :
      (d'.sight task.handle).Story task keep :=
    (hd.stories task keep hmem).turn (h.turn (.inl (hd.handle_lt hmem)))
  rcases h.submits with ⟨hnext, hsubmitted⟩ | ⟨task, keep, hhandle, hnext, hsubmitted, hnew⟩
  · refine ⟨hdistinct, hfresh, ?_, ?_, hblank (Nat.le_of_eq hnext.symm), ?_⟩
    · rw [hsubmitted, hd.handles]
    · rw [hnext, hsubmitted, hd.next]
    · rw [hsubmitted]
      exact hstories
  · refine ⟨hdistinct, hfresh, ?_, ?_, hblank (hnext ▸ Nat.le_succ _), ?_⟩
    · rw [hsubmitted, List.map_append, hd.handles, List.length_append, List.length_singleton,
        List.range'_1_concat, List.map_singleton, hhandle, hd.next, Nat.add_comm 1]
    · rw [hnext, hsubmitted, hd.next, List.length_append, List.length_singleton]
    · intro other keep' hmem
      rw [hsubmitted] at hmem
      rcases List.mem_append.1 hmem with hold | hlast
      · exact hstories other keep' hold
      · obtain ⟨rfl, rfl⟩ := Prod.mk.inj (List.mem_singleton.1 hlast)
        rw [hnew (hd.blank _ (Nat.le_of_eq hhandle.symm))]
        refine .waiting _ fun j hj ↦ ?_
        cases hj
        rfl

/-! ## Any number of steps -/

namespace Steps

theorem of_eq (h : d = d') : d.Steps released d' :=
  h ▸ .refl

theorem sound (h : d.Steps released d') (hd : d.Sound) : d'.Sound := by
  induction h with
  | refl => exact hd
  | tail _ hstep ih => exact ih.step hstep

/-- No job that was submitted is forgotten to have been. -/
theorem mem_submitted (h : d.Steps released d') {x : Task × Bool} (hx : x ∈ d.submitted) :
    x ∈ d'.submitted := by
  induction h with
  | refl => exact hx
  | tail _ hstep ih =>
    rcases hstep.submits with ⟨-, hsubmitted⟩ | ⟨_, _, -, -, hsubmitted, -⟩
    · rw [hsubmitted]
      exact ih
    · rw [hsubmitted]
      exact List.mem_append_left _ ih

variable {task : Task} {keep : Bool}

/-- What can be seen of a job only moves forward. -/
theorem forward (h : d.Steps released d') (hd : d.Sound) (hmem : (task, keep) ∈ d.submitted) :
    (d.sight task.handle).status.Forward (d'.sight task.handle).status := by
  induction h with
  | refl => exact .refl _
  | tail hsteps hstep ih =>
    have hsound := sound hsteps hd
    have hmem' := mem_submitted hsteps hmem
    have hturn := hstep.turn (.inl (hsound.handle_lt hmem'))
    exact ih.trans ((hsound.stories task keep hmem').forward hturn)

/-- A job of which nothing is to be had stays so, and it is remembered until it is released. -/
theorem spent (h : d.Steps released d') (hd : d.Sound) (hmem : (task, keep) ∈ d.submitted)
    (hspent : (d.sight task.handle).Spent) :
    (d'.sight task.handle).Spent ∧
      (¬released task.handle → (d'.sight task.handle).job = (d.sight task.handle).job) := by
  induction h with
  | refl => exact ⟨hspent, fun _ ↦ rfl⟩
  | tail hsteps hstep ih =>
    have hlt := (sound hsteps hd).handle_lt (mem_submitted hsteps hmem)
    obtain ⟨hspent', hjob⟩ := ih.1.turn (hstep.turn (.inl hlt))
    exact ⟨hspent', fun hkept ↦ (hjob hkept).trans (ih.2 hkept)⟩

theorem mono {released' : Nat → Prop} (h : d.Steps released d')
    (himp : ∀ handle, released handle → released' handle) : d.Steps released' d' :=
  Relation.ReflTransGen.mono (fun _ _ hstep ↦ hstep.mono himp) _ _ h

end Steps

end Docket

end MariaClient
