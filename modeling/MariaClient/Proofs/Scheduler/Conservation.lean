import MariaClient.Proofs.Scheduler.Crew
import MariaClient.Session.Script

/-!
# Conservation of tasks

Callers and workers of a scheduler may act in any order.  Each action is a step of the crew
(`Watched.crew_step`, `Watched.crew_advance`), so tasks are taken in the order in which they were
submitted, none twice; and where no worker is held up for ever each of them is taken:
`Watched.tasks_conserved`.
-/

namespace MariaClient

namespace Board

/-- A board on which no more than the jobs may have changed. -/
def Agrees (b b' : Board) : Prop :=
  b'.queue = b.queue ∧ b'.next = b.next ∧ b'.workers = b.workers ∧ b'.maxWorkers = b.maxWorkers

theorem agrees_complete (b : Board) (handle : Nat) (result : Except Error JobOutput) :
    b.Agrees (b.complete handle result) := by
  unfold complete
  split
  · exact ⟨rfl, rfl, rfl, rfl⟩
  · split <;> exact ⟨rfl, rfl, rfl, rfl⟩

theorem agrees_take (b : Board) (handle : Nat) : b.Agrees (take handle b).2 := by
  unfold take
  split <;> exact ⟨rfl, rfl, rfl, rfl⟩

end Board

namespace Scheduler

variable {σ : Type} (srv : Server σ)

/-! ## Actions -/

/-- What callers and workers do.  A job may break off in the middle (`abort`), and it leaves the
sessions and the server as they are then.  Statements and servers are also used by others
(`outside`). -/
inductive Action (σ : Type)
  | submit (kind : JobKind) (target : JobTarget) (keep : Bool)
  | prepare (sql : String)
  | setParam (statement index : Nat) (value : Param)
  | take (handle : Nat)
  | release (handle : Nat)
  | advance (worker : Nat)
  | abort (worker : Nat) (session : Session) (statements : List (Nat × SharedStatement))
    (server : σ)
  | outside (statements : List (Nat × SharedStatement)) (server : σ)

/-- The worker of a number. -/
def worker? (number : Nat) (s : Scheduler σ) : Option Worker :=
  s.workers.find? fun w ↦ w.number == number

/-- The job of a worker breaks off, which counts as a failure. -/
def abort (w : Worker) (task : Task) (session : Session)
    (statements : List (Nat × SharedStatement)) (server : σ) (s : Scheduler σ) : Scheduler σ :=
  ({ s with statements, server }.keepSession w.number session).move w.number
    (.finished task (.error .aborted))

/-- The task that a worker takes by its next step, with the number of the worker. -/
def takes? (w : Worker) (s : Scheduler σ) : Option (Nat × Task) :=
  match w.phase with
  | .idle => s.board.pop.1.map (w.number, ·)
  | _ => none

/-- A scheduler with all tasks that were submitted and all that were taken by workers, the oldest
first. -/
structure Watched (σ : Type) where
  scheduler : Scheduler σ
  submitted : List Task := []
  taken : List (Nat × Task) := []

namespace Watched

/-- A scheduler for an account before its first task. -/
def start (a : Account) (maxWorkers : Nat) (server : σ) : Watched σ :=
  { scheduler := Scheduler.start a maxWorkers server }

/-- What is left by an action.  An action of a worker that is not there, or that is not in the
middle of a job that could break off, is none. -/
def step (v : Watched σ) : Action σ → Watched σ
  | .submit kind target keep =>
    let (handle, scheduler) := v.scheduler.submit kind target keep
    { v with scheduler, submitted := v.submitted ++ [{ handle, kind, target }] }
  | .prepare sql => { v with scheduler := (v.scheduler.prepare srv sql).2 }
  | .setParam number index value =>
    { v with scheduler := (v.scheduler.setParam number index value).2 }
  | .take handle => { v with scheduler := (v.scheduler.onBoard (Board.take handle)).2 }
  | .release handle => { v with scheduler := (v.scheduler.release handle).2 }
  | .advance number =>
    match v.scheduler.worker? number with
    | some w =>
      { v with
        scheduler := v.scheduler.advance srv w
        taken := v.taken ++ (v.scheduler.takes? w).toList }
    | none => v
  | .abort number session statements server =>
    match v.scheduler.worker? number with
    | some w =>
      match w.phase with
      | .busy task =>
        { v with scheduler := v.scheduler.abort w task session statements server }
      | _ => v
    | none => v
  | .outside statements server => { v with scheduler := { v.scheduler with statements, server } }

/-- What is left by the first actions of a run. -/
def after (v : Watched σ) (acts : Nat → Action σ) : Nat → Watched σ
  | 0 => v
  | k + 1 => (after v acts k).step srv (acts k)

/-- No worker is held up for ever. -/
def Fair (v : Watched σ) (acts : Nat → Action σ) : Prop :=
  ∀ k, ∀ w ∈ (v.after srv acts k).scheduler.workers, ∃ j, k ≤ j ∧ acts j = .advance w.number

/-- Tasks are taken in the order in which they were submitted, and those that were not taken wait.
The workers that look for tasks are counted and no more than they may be; while tasks wait there is
one of them. -/
structure Conserved (maxWorkers : Nat) (v : Watched σ) : Prop where
  order : v.taken.map Prod.snd ++ v.scheduler.board.queue = v.submitted
  distinct : v.submitted.Nodup
  numbers : (v.scheduler.workers.map Worker.number).Nodup
  counted : v.scheduler.board.workers = v.scheduler.workers.countP fun w ↦ w.phase.live
  bounded : v.scheduler.board.workers ≤ max 1 maxWorkers
  served : v.scheduler.board.queue ≠ [] → ∃ w ∈ v.scheduler.workers, w.phase.live = true

end Watched

/-! ## Crews of schedulers -/

/-- The workers with their phases. -/
def members (s : Scheduler σ) : List (Nat × Phase) :=
  s.workers.map fun w ↦ (w.number, w.phase)

section Members

variable {s : Scheduler σ} {first last : List (Nat × Phase)} {w : Worker}

theorem ne_of_mem {n : Nat} {p : Phase} (h : ((first ++ (n, p) :: last).map Prod.fst).Nodup)
    {x : Nat × Phase} (hx : x ∈ first ++ last) : x.1 ≠ n := by
  rw [List.map_append, List.map_cons, List.nodup_middle, List.nodup_cons, ← List.map_append] at h
  intro hn
  exact h.1 (List.mem_map.2 ⟨x, hx, hn⟩)

theorem members_keepSession (number : Nat) (session : Session) :
    (s.keepSession number session).members = s.members := by
  unfold members keepSession
  rw [List.map_map]
  refine List.map_congr_left fun w _ ↦ ?_
  dsimp only [Function.comp]
  split <;> rfl

/-- A worker that is moved is alone in another phase. -/
theorem members_move (hs : s.members = first ++ (w.number, w.phase) :: last)
    (hdistinct : (s.members.map Prod.fst).Nodup) (phase : Phase) :
    (s.move w.number phase).members = first ++ (w.number, phase) :: last := by
  have hmap : (s.move w.number phase).members =
      s.members.map fun m ↦ (m.1, if m.1 = w.number then phase else m.2) := by
    unfold members move
    rw [List.map_map, List.map_map]
    refine List.map_congr_left fun w' _ ↦ ?_
    dsimp only [Function.comp]
    split <;> rfl
  rw [hs] at hdistinct hmap
  have hother (xs : List (Nat × Phase)) (hxs : ∀ x ∈ xs, x ∈ first ++ last) :
      xs.map (fun m ↦ (m.1, if m.1 = w.number then phase else m.2)) = xs := by
    refine (List.map_congr_left fun x hx ↦ ?_).trans (List.map_id' xs)
    rw [if_neg (ne_of_mem hdistinct (hxs x hx))]
  rw [hmap, List.map_append, List.map_cons, if_pos rfl,
    hother first fun _ hx ↦ List.mem_append_left _ hx,
    hother last fun _ hx ↦ List.mem_append_right _ hx]

/-- A worker that leaves is no longer there, and the others are. -/
theorem members_leave (hs : s.members = first ++ (w.number, w.phase) :: last)
    (hdistinct : (s.members.map Prod.fst).Nodup) :
    (s.leave srv w).members = first ++ last := by
  have hfilter : (s.leave srv w).members = s.members.filter fun m ↦ m.1 != w.number := by
    unfold members leave
    rw [List.filter_map]
    rfl
  rw [hs] at hdistinct hfilter
  have hother (xs : List (Nat × Phase)) (hxs : ∀ x ∈ xs, x ∈ first ++ last) :
      xs.filter (fun m ↦ m.1 != w.number) = xs := by
    refine List.filter_eq_self.2 fun x hx ↦ ?_
    exact bne_iff_ne.2 (ne_of_mem hdistinct (hxs x hx))
  rw [hfilter, List.filter_append, List.filter_cons_of_neg (by simp),
    hother first fun _ hx ↦ List.mem_append_left _ hx,
    hother last fun _ hx ↦ List.mem_append_right _ hx]

end Members

/-- What running a task gives. -/
def outcome (w : Worker) (task : Task) (s : Scheduler σ) : Except Error JobOutput :=
  match task.target with
  | .sql text =>
    (task.kind.runSql srv s.account text { session := w.session, server := s.server }).1
  | .statement number =>
    match s.statements.lookup number with
    | none => .error .notConnected
    | some shared =>
      (task.kind.runStatement srv s.account shared.statement
        { session := shared.session, server := s.server }).1

/-- Running a task ends in its outcome, and changes neither the board nor the crew otherwise. -/
theorem run_eq_move (w : Worker) (task : Task) (s : Scheduler σ) :
    ∃ s' : Scheduler σ,
      s.run srv w task = s'.move w.number (.finished task (s.outcome srv w task)) ∧
      s'.members = s.members ∧ s'.board = s.board ∧ s'.nextWorker = s.nextWorker := by
  obtain ⟨handle, kind, target⟩ := task
  cases target with
  | sql text => exact ⟨_, rfl, members_keepSession _ _, rfl, rfl⟩
  | statement number =>
    dsimp only [run, outcome]
    rcases s.statements.lookup number with _ | shared
    · exact ⟨_, rfl, rfl, rfl, rfl⟩
    · exact ⟨_, rfl, rfl, rfl, rfl⟩

/-- Preparing a statement changes the statements and the server. -/
theorem prepare_eq (sql : String) (s : Scheduler σ) :
    ∃ statements nextStatement server,
      (s.prepare srv sql).2 = { s with statements, nextStatement, server } := by
  unfold prepare onSession
  rcases Statement.prepare srv s.account sql
    { session := Session.start s.account, server := s.server } with ⟨e | statement, l⟩
  · exact ⟨_, _, _, rfl⟩
  · exact ⟨_, _, _, rfl⟩

namespace Watched

/-- The crew of a scheduler. -/
def crew (v : Watched σ) : Crew where
  queue := v.scheduler.board.queue
  next := v.scheduler.board.next
  counted := v.scheduler.board.workers
  room := v.scheduler.board.maxWorkers
  members := v.scheduler.members
  nextMember := v.scheduler.nextWorker
  submitted := v.submitted
  taken := v.taken

variable {v : Watched σ}

theorem crew_submit (kind : JobKind) (target : JobTarget) (keep : Bool) :
    v.crew.Step none (v.step srv (.submit kind target keep)).crew := by
  by_cases hroom : v.scheduler.board.hasRoom = true
  · have hcrew : (v.step srv (.submit kind target keep)).crew =
        { v.crew with
          queue := v.crew.queue ++ [⟨v.scheduler.board.next, kind, target⟩]
          next := v.crew.next + 1
          counted := v.crew.counted + 1
          members := v.crew.members ++ [(v.crew.nextMember, .starting)]
          nextMember := v.crew.nextMember + 1
          submitted := v.crew.submitted ++ [⟨v.scheduler.board.next, kind, target⟩] } := by
      simp [step, crew, Scheduler.submit, Board.submit, members, hroom]
    rw [hcrew]
    exact .join _ rfl (of_decide_eq_true hroom)
  · have hcrew : (v.step srv (.submit kind target keep)).crew =
        { v.crew with
          queue := v.crew.queue ++ [⟨v.scheduler.board.next, kind, target⟩]
          next := v.crew.next + 1
          submitted := v.crew.submitted ++ [⟨v.scheduler.board.next, kind, target⟩] } := by
      simp [step, crew, Scheduler.submit, Board.submit, members, hroom]
    rw [hcrew]
    exact .wait _ rfl (Nat.le_of_not_lt fun hlt ↦ hroom (decide_eq_true hlt))

/-- What callers do apart from submitting tasks is of no concern to the crew. -/
theorem crew_outside {board : Board} (hboard : v.scheduler.board.Agrees board)
    (statements : List (Nat × SharedStatement)) (next : Nat) (server : σ) :
    v.crew.Step none
      { v with
        scheduler := { v.scheduler with
          board, statements, nextStatement := next, server } : Watched σ }.crew := by
  obtain ⟨hqueue, hnext, hworkers, hroom⟩ := hboard
  have hcrew : { v with
      scheduler := { v.scheduler with
        board, statements, nextStatement := next, server } : Watched σ }.crew = v.crew := by
    simp [crew, members, hqueue, hnext, hworkers, hroom]
  rw [hcrew]
  exact .stay

section Workers

variable {w : Worker}

theorem members_split (hw : w ∈ v.scheduler.workers) :
    ∃ first last, v.scheduler.members = first ++ (w.number, w.phase) :: last :=
  List.append_of_mem (List.mem_map.2 ⟨w, hw, rfl⟩)

theorem numbers_nodup (hv : v.crew.Sound) : (v.scheduler.workers.map Worker.number).Nodup := by
  have hdistinct : (v.scheduler.members.map Prod.fst).Nodup := hv.distinct
  rwa [members, List.map_map] at hdistinct

/-- A worker is found by its number. -/
theorem worker?_number (hv : v.crew.Sound) (hw : w ∈ v.scheduler.workers) :
    v.scheduler.worker? w.number = some w := by
  unfold worker?
  rcases hfind : v.scheduler.workers.find? fun x ↦ x.number == w.number with _ | w'
  · exact absurd (beq_self_eq_true w.number) (List.find?_eq_none.1 hfind w hw)
  · have hnumber := List.find?_some hfind
    have heq : w' = w := List.inj_on_of_nodup_map (numbers_nodup hv)
      (List.mem_of_find?_eq_some hfind) hw (beq_iff_eq.1 hnumber)
    rw [hfind, heq]

/-- A worker that goes on with its task, or that is done with it, comes nearer to the next. -/
theorem crew_move (hv : v.crew.Sound) (hw : w ∈ v.scheduler.workers) {phase : Phase}
    (hlive : w.phase.live = true) (hlive' : phase.live = true)
    (hdistance : phase.distance < w.phase.distance) {s : Scheduler σ}
    (hmembers : s.members = v.scheduler.members) (hboard : v.scheduler.board.Agrees s.board)
    (hnextWorker : s.nextWorker = v.scheduler.nextWorker) :
    v.crew.Step (some w.number) { v with scheduler := s.move w.number phase : Watched σ }.crew := by
  obtain ⟨hqueue, hnext, hworkers, hroom⟩ := hboard
  obtain ⟨first, last, hsplit⟩ := members_split hw
  have hmoved := members_move (hmembers.trans hsplit) (hmembers ▸ hv.distinct) phase
  have hcrew : { v with scheduler := s.move w.number phase : Watched σ }.crew =
      { v.crew with members := first ++ (w.number, phase) :: last } := by
    rw [crew, hmoved]
    simp [crew, move, hqueue, hnext, hworkers, hroom, hnextWorker]
  rw [hcrew]
  exact .goOn first last w.number w.phase phase hsplit hlive hlive' hdistance

theorem step_advance (hv : v.crew.Sound) (hw : w ∈ v.scheduler.workers) :
    v.step srv (.advance w.number) =
      { v with
        scheduler := v.scheduler.advance srv w
        taken := v.taken ++ (v.scheduler.takes? w).toList } := by
  rw [step, worker?_number hv hw]

/-- A worker that looks for a task takes the oldest, or finds that there is none. -/
theorem crew_pop (hv : v.crew.Sound) (hw : w ∈ v.scheduler.workers) (hphase : w.phase = .idle) :
    v.crew.Step (some w.number) (v.step srv (.advance w.number)).crew := by
  obtain ⟨first, last, hsplit⟩ := members_split hw
  have hmoved (board : Board) (phase : Phase) :
      ({ v.scheduler with board }.move w.number phase).members =
        first ++ (w.number, phase) :: last :=
    members_move (s := { v.scheduler with board }) hsplit hv.distinct phase
  rw [hphase] at hsplit
  rw [step_advance srv hv hw]
  rcases hqueue : v.scheduler.board.queue with _ | ⟨task, queue⟩
  · have hadvance : v.scheduler.advance srv w =
        { v.scheduler with
          board := { v.scheduler.board with workers := v.scheduler.board.workers - 1 } }.move
            w.number .leaving := by
      simp [advance, hphase, pop, Board.pop, hqueue]
    have htakes : v.scheduler.takes? w = none := by
      simp [takes?, hphase, Board.pop, hqueue]
    have hcrew : { v with
        scheduler := v.scheduler.advance srv w
        taken := v.taken ++ (v.scheduler.takes? w).toList : Watched σ }.crew =
        { v.crew with
          counted := v.crew.counted - 1
          members := first ++ (w.number, .leaving) :: last } := by
      rw [hadvance, htakes, crew, hmoved]
      simp [crew, move]
    rw [hcrew]
    exact .finish first last w.number hsplit hqueue
  · have hadvance : v.scheduler.advance srv w =
        { v.scheduler with
          board := { v.scheduler.board with queue }.setState task.handle .executing }.move
            w.number (.busy task) := by
      simp [advance, hphase, pop, Board.pop, hqueue]
    have htakes : v.scheduler.takes? w = some (w.number, task) := by
      simp [takes?, hphase, Board.pop, hqueue]
    have hcrew : { v with
        scheduler := v.scheduler.advance srv w
        taken := v.taken ++ (v.scheduler.takes? w).toList : Watched σ }.crew =
        { v.crew with
          queue
          members := first ++ (w.number, .busy task) :: last
          taken := v.crew.taken ++ [(w.number, task)] } := by
      rw [hadvance, htakes, crew, hmoved]
      simp [crew, move, Board.setState]
    rw [hcrew]
    exact .take first last w.number task queue hsplit hqueue

/-- A step of a worker is one of its crew. -/
theorem crew_advance (hv : v.crew.Sound) (hw : w ∈ v.scheduler.workers) :
    v.crew.Step (some w.number) (v.step srv (.advance w.number)).crew := by
  have htaken (htakes : v.scheduler.takes? w = none) : v.step srv (.advance w.number) =
      { v with scheduler := v.scheduler.advance srv w } := by
    rw [step_advance srv hv hw, htakes, Option.toList_none, List.append_nil]
  cases hphase : w.phase with
  | starting =>
    rw [htaken (by rw [takes?, hphase]), advance, hphase]
    exact crew_move hv hw (by rw [hphase]; rfl) rfl (by rw [hphase]; exact Nat.zero_lt_one) rfl
      ⟨rfl, rfl, rfl, rfl⟩ rfl
  | idle => exact crew_pop srv hv hw hphase
  | busy task =>
    obtain ⟨s, hrun, hmembers, hboard, hnextWorker⟩ := run_eq_move srv w task v.scheduler
    rw [htaken (by rw [takes?, hphase]), advance, hphase]
    dsimp only
    rw [hrun]
    exact crew_move hv hw (by rw [hphase]; rfl) rfl (by rw [hphase]; exact Nat.one_lt_two)
      hmembers (hboard ▸ ⟨rfl, rfl, rfl, rfl⟩) hnextWorker
  | finished task result =>
    rw [htaken (by rw [takes?, hphase]), advance, hphase]
    exact crew_move hv hw (by rw [hphase]; rfl) rfl (by rw [hphase]; exact Nat.zero_lt_one) rfl
      (Board.agrees_complete _ _ _) rfl
  | leaving =>
    obtain ⟨first, last, hsplit⟩ := members_split hw
    have hleft := members_leave srv hsplit hv.distinct
    have hcrew : { v with scheduler := v.scheduler.leave srv w : Watched σ }.crew =
        { v.crew with members := first ++ last } := by
      rw [crew, hleft]
      rfl
    rw [htaken (by rw [takes?, hphase]), advance, hphase]
    dsimp only
    rw [hcrew]
    rw [hphase] at hsplit
    exact .leave first last w.number hsplit

/-- Nothing that anybody does is more than a step of the crew. -/
theorem crew_step (hv : v.crew.Sound) (act : Action σ) :
    ∃ who, v.crew.Step who (v.step srv act).crew := by
  cases act with
  | submit kind target keep => exact ⟨none, crew_submit srv kind target keep⟩
  | prepare sql =>
    obtain ⟨statements, next, server, hprepare⟩ := prepare_eq srv sql v.scheduler
    rw [step, hprepare]
    exact ⟨none, crew_outside ⟨rfl, rfl, rfl, rfl⟩ _ _ _⟩
  | setParam number index value =>
    refine ⟨none, ?_⟩
    dsimp only [step, setParam]
    split
    · exact .stay
    · split
      · exact .stay
      · exact crew_outside ⟨rfl, rfl, rfl, rfl⟩ _ _ _
  | take handle => exact ⟨none, crew_outside (Board.agrees_take _ handle) _ _ _⟩
  | release handle => exact ⟨none, crew_outside ⟨rfl, rfl, rfl, rfl⟩ _ _ _⟩
  | advance number =>
    rcases hfind : v.scheduler.worker? number with _ | w
    · rw [step, hfind]
      exact ⟨none, .stay⟩
    · have hnumber : w.number = number := beq_iff_eq.1 (List.find?_some hfind :)
      subst hnumber
      exact ⟨some w.number, crew_advance srv hv (List.mem_of_find?_eq_some hfind)⟩
  | abort number session statements server =>
    dsimp only [step]
    split
    next w hfind =>
      split
      next task hphase =>
        have hnumber : w.number = number := beq_iff_eq.1 (List.find?_some hfind :)
        subst hnumber
        refine ⟨some w.number, crew_move hv (List.mem_of_find?_eq_some hfind)
          (by rw [hphase]; rfl) rfl (by rw [hphase]; exact Nat.one_lt_two)
          (members_keepSession _ _) ⟨rfl, rfl, rfl, rfl⟩ rfl⟩
      next => exact ⟨none, .stay⟩
    next => exact ⟨none, .stay⟩
  | outside statements server => exact ⟨none, crew_outside ⟨rfl, rfl, rfl, rfl⟩ _ _ _⟩

end Workers

/-! ## Runs -/

variable {acts : Nat → Action σ}

theorem sound_start (a : Account) (maxWorkers : Nat) (server : σ) :
    (start a maxWorkers server).crew.Sound where
  conserved := rfl
  handles := rfl
  next := rfl
  distinct := List.nodup_nil
  fresh _ _ hmem := absurd hmem List.not_mem_nil
  counted := rfl
  bounded := Nat.zero_le _
  room := Nat.lt_of_lt_of_le Nat.zero_lt_one (Nat.le_max_left 1 maxWorkers)
  served hne := absurd rfl hne

theorem sound_after (hv : v.crew.Sound) (k : Nat) : (v.after srv acts k).crew.Sound := by
  induction k with
  | zero => exact hv
  | succ k ih =>
    obtain ⟨who, hstep⟩ := crew_step srv ih (acts k)
    exact ih.step hstep

theorem room_after (hv : v.crew.Sound) (k : Nat) :
    (v.after srv acts k).crew.room = v.crew.room := by
  induction k with
  | zero => rfl
  | succ k ih =>
    obtain ⟨who, hstep⟩ := crew_step srv (sound_after srv hv k) (acts k)
    exact hstep.room_eq.trans ih

theorem mem_taken_after (hv : v.crew.Sound) {x : Nat × Task} {k j : Nat} (hkj : k ≤ j)
    (hx : x ∈ (v.after srv acts k).taken) : x ∈ (v.after srv acts j).taken := by
  induction hkj with
  | refl => exact hx
  | @step m _ ih =>
    obtain ⟨who, hstep⟩ := crew_step srv (sound_after srv hv m) (acts m)
    exact hstep.mem_taken ih

/-- Until a task is taken, no worker gets away from it. -/
theorem awaits_after {task : Task} {n steps k j : Nat} (hv : v.crew.Sound) (hkj : k ≤ j)
    (h : (v.after srv acts k).crew.Awaits task n steps) :
    (v.after srv acts j).crew.Took task ∨
      ∃ steps', steps' ≤ steps ∧ (v.after srv acts j).crew.Awaits task n steps' := by
  induction hkj with
  | refl => exact .inr ⟨steps, Nat.le_refl _, h⟩
  | @step m _ ih =>
    have hsound : (v.after srv acts m).crew.Sound := sound_after srv hv m
    obtain ⟨who, hstep⟩ := crew_step srv hsound (acts _)
    rcases ih with htook | ⟨steps', hle, hawaits⟩
    · obtain ⟨m, hmem⟩ := htook
      exact .inl ⟨m, hstep.mem_taken hmem⟩
    · rcases hawaits.step hsound hstep with htook | ⟨steps'', hawaits', hle', -⟩
      · exact .inl htook
      · exact .inr ⟨steps'', Nat.le_trans hle' hle, hawaits'⟩

theorem worker_of_awaits {task : Task} {n steps : Nat} (h : v.crew.Awaits task n steps) :
    ∃ w ∈ v.scheduler.workers, w.number = n := by
  obtain ⟨_, _, _, -, hmem, -⟩ := h
  obtain ⟨w, hw, heq⟩ := List.mem_map.1 hmem
  exact ⟨w, hw, (Prod.mk.inj heq).1⟩

/-- Where no worker is held up for ever, a task that waits is taken.  The induction is on the steps
that a worker has to take for it. -/
theorem took_of_awaits (hv : v.crew.Sound) (hfair : v.Fair srv acts) {task : Task}
    {n steps k : Nat} (h : (v.after srv acts k).crew.Awaits task n steps) :
    ∃ m, (v.after srv acts m).crew.Took task := by
  induction steps using Nat.strongRecOn generalizing k with
  | ind steps ih =>
    obtain ⟨w, hw, rfl⟩ := worker_of_awaits h
    obtain ⟨j, hkj, hact⟩ := hfair k w hw
    rcases awaits_after srv hv hkj h with htook | ⟨steps', hle, hawaits⟩
    · exact ⟨j, htook⟩
    · have hsound : (v.after srv acts j).crew.Sound := sound_after srv hv j
      obtain ⟨w', hw', hnumber⟩ := worker_of_awaits hawaits
      have hstep := crew_advance srv hsound hw'
      rw [hnumber, ← hact] at hstep
      rcases hawaits.step hsound hstep with htook | ⟨steps'', hawaits', -, hlt⟩
      · exact ⟨j + 1, htook⟩
      · exact ih steps'' (Nat.lt_of_lt_of_le (hlt rfl) hle) (k := j + 1) hawaits'

theorem conserved_of_sound {maxWorkers : Nat} (hv : v.crew.Sound)
    (hroom : v.crew.room = max 1 maxWorkers) : v.Conserved maxWorkers where
  order := hv.conserved
  distinct := hv.nodup_submitted
  numbers := numbers_nodup hv
  counted := by
    have hcounted : v.scheduler.board.workers = v.scheduler.members.countP _ := hv.counted
    rw [hcounted, members, List.countP_map]
    rfl
  bounded := hroom ▸ hv.bounded
  served hne := by
    have hcounted := hv.served hne
    rw [hv.counted] at hcounted
    obtain ⟨m, hmem, hlive⟩ := List.countP_pos_iff.1 hcounted
    obtain ⟨w, hw, rfl⟩ := List.mem_map.1 hmem
    exact ⟨w, hw, hlive⟩

/-- Callers, workers and jobs that break off may act in any order, and jobs may be released at any
time.  At no point is a task lost, taken twice or taken out of order, or left without a worker.
Where moreover no worker is held up for ever, every task that is ever submitted is taken at some
point, by one worker and once. -/
theorem tasks_conserved (a : Account) (maxWorkers : Nat) (server : σ) (acts : Nat → Action σ) :
    (∀ k, ((start a maxWorkers server).after srv acts k).Conserved maxWorkers) ∧
      ((start a maxWorkers server).Fair srv acts →
        ∀ k, ∀ task ∈ ((start a maxWorkers server).after srv acts k).submitted,
          ∃ n m, ∀ j, m ≤ j →
            ((start a maxWorkers server).after srv acts j).taken.filter (fun x ↦ x.2 = task) =
              [(n, task)]) := by
  have hstart := sound_start a maxWorkers server
  constructor
  · intro k
    exact conserved_of_sound (sound_after srv hstart k) (room_after srv hstart k)
  · intro hfair k task hmem
    have htook : ∃ m, ((start a maxWorkers server).after srv acts m).crew.Took task := by
      rcases (sound_after srv hstart k).took_or_awaits hmem with htook | ⟨n, steps, hawaits⟩
      · exact ⟨k, htook⟩
      · exact took_of_awaits srv hstart hfair hawaits
    obtain ⟨m, n, htaken⟩ := htook
    refine ⟨n, m, fun j hmj ↦ ?_⟩
    exact (sound_after srv hstart j).taken_once (mem_taken_after srv hstart hmj htaken)

/-- Two tasks for one worker, the first of which is released before the worker begins. -/
def twoTasks : Nat → Action Script
  | 0 => .submit .execute (.sql "DELETE FROM t") true
  | 1 => .submit .query (.sql "SELECT 1") false
  | 2 => .release 1
  | _ + 3 => .advance 1

/-- The worker is gone after twelve actions, and is the only one until then. -/
theorem twoTasks_numbers (k : Nat) :
    ∀ w ∈ ((start {} 1 {}).after Script.server twoTasks k).scheduler.workers, w.number = 1 := by
  have hbegun : ∀ k < 12, ((start {} 1 {}).after Script.server twoTasks k).scheduler.workers.all
      (fun w ↦ w.number == 1) = true := by
    decide +kernel
  have hgone : ((start {} 1 {}).after Script.server twoTasks 12).scheduler.workers = [] := by
    decide +kernel
  have hdone (k : Nat) : (start {} 1 {}).after Script.server twoTasks (12 + k) =
      (start {} 1 {}).after Script.server twoTasks 12 := by
    induction k with
    | zero => rw [Nat.add_zero]
    | succ k ih =>
      have hact : twoTasks (12 + k) = .advance 1 := by
        rw [Nat.add_comm]
        exact rfl
      rw [← Nat.add_assoc, after, ih, hact, step, worker?, hgone, List.find?_nil]
  intro w hw
  rcases Nat.lt_or_ge k 12 with hk | hk
  · exact beq_iff_eq.1 (List.all_eq_true.1 (hbegun k hk) w hw)
  · obtain ⟨k, rfl⟩ := Nat.exists_eq_add_of_le hk
    rw [hdone, hgone] at hw
    cases hw

theorem tasks_conserved_twoTasks :
    (start {} 1 {}).Fair Script.server twoTasks ∧
      ∀ k, ∀ task ∈ ((start {} 1 {}).after Script.server twoTasks k).submitted,
        ∃ n m, ∀ j, m ≤ j →
          ((start {} 1 {}).after Script.server twoTasks j).taken.filter (fun x ↦ x.2 = task) =
            [(n, task)] := by
  have hfair : (start {} 1 {}).Fair Script.server twoTasks := by
    intro k w hw
    refine ⟨k + 3, Nat.le_add_right k 3, ?_⟩
    rw [twoTasks_numbers k w hw]
    rfl
  exact ⟨hfair, (tasks_conserved Script.server {} 1 {} twoTasks).2 hfair⟩

end Watched

end Scheduler

end MariaClient
