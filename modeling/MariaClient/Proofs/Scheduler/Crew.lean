import MariaClient.Scheduler.Workers
import Mathlib.Data.List.Nodup

/-!
# Crews

What matters of a scheduler for the tasks that it is given: the queue, the workers with their
phases, how many of them are counted, and beside these all tasks that were submitted and all that
were taken.  A crew changes in few ways (`Crew.Step`), in whatever order callers and workers come.
Each of them keeps the crew sound (`Crew.Sound.step`), and a worker that goes on brings every task
that waits nearer to being taken (`Crew.Awaits.step`).
-/

namespace MariaClient

namespace Phase

/-- A worker in this phase still looks for tasks. -/
def live : Phase → Bool
  | leaving => false
  | _ => true

/-- The steps that a worker takes before it looks for the next task. -/
def distance : Phase → Nat
  | busy _ => 2
  | starting | finished .. => 1
  | idle | leaving => 0

end Phase

/-- The tasks of a scheduler and who works on them.  The workers are told apart by numbers. -/
structure Crew where
  queue : List Task
  next : Nat
  counted : Nat
  room : Nat
  members : List (Nat × Phase)
  nextMember : Nat
  submitted : List Task
  taken : List (Nat × Task)

namespace Crew

variable {c c' : Crew} {who : Option Nat}

/-! ## Steps -/

/-- A step of a crew, and the number of the worker that takes it if any does. -/
inductive Step (c : Crew) : Option Nat → Crew → Prop
  /-- Something that is of no concern to the crew. -/
  | stay : Step c none c
  /-- A task is submitted, and a worker begins. -/
  | join (task : Task) (hhandle : task.handle = c.next) (hroom : c.counted < c.room) :
    Step c none
      { c with
        queue := c.queue ++ [task]
        next := c.next + 1
        counted := c.counted + 1
        members := c.members ++ [(c.nextMember, .starting)]
        nextMember := c.nextMember + 1
        submitted := c.submitted ++ [task] }
  /-- A task is submitted while there is no room for another worker. -/
  | wait (task : Task) (hhandle : task.handle = c.next) (hroom : c.room ≤ c.counted) :
    Step c none
      { c with
        queue := c.queue ++ [task]
        next := c.next + 1
        submitted := c.submitted ++ [task] }
  /-- A worker comes nearer to its next task. -/
  | goOn (first last : List (Nat × Phase)) (n : Nat) (p p' : Phase)
    (hmembers : c.members = first ++ (n, p) :: last) (hlive : p.live = true)
    (hlive' : p'.live = true) (hdistance : p'.distance < p.distance) :
    Step c (some n) { c with members := first ++ (n, p') :: last }
  /-- A worker takes the oldest task. -/
  | take (first last : List (Nat × Phase)) (n : Nat) (task : Task) (queue : List Task)
    (hmembers : c.members = first ++ (n, .idle) :: last) (hqueue : c.queue = task :: queue) :
    Step c (some n)
      { c with
        queue
        members := first ++ (n, .busy task) :: last
        taken := c.taken ++ [(n, task)] }
  /-- A worker finds no task. -/
  | finish (first last : List (Nat × Phase)) (n : Nat)
    (hmembers : c.members = first ++ (n, .idle) :: last) (hqueue : c.queue = []) :
    Step c (some n)
      { c with
        counted := c.counted - 1
        members := first ++ (n, .leaving) :: last }
  /-- A worker that found no task is gone. -/
  | leave (first last : List (Nat × Phase)) (n : Nat)
    (hmembers : c.members = first ++ (n, .leaving) :: last) :
    Step c (some n) { c with members := first ++ last }

/-- There is room for as many workers as there was. -/
theorem Step.room_eq (h : Step c who c') : c'.room = c.room := by
  cases h with
  | _ => rfl

/-! ## What all steps preserve -/

/-- No task is lost, taken twice or taken before an older one; the workers that look for tasks are
counted, they are no more than there is room for, and while tasks wait there is one. -/
structure Sound (c : Crew) : Prop where
  conserved : c.taken.map Prod.snd ++ c.queue = c.submitted
  handles : c.submitted.map Task.handle = List.range' 1 c.submitted.length
  next : c.next = c.submitted.length + 1
  distinct : (c.members.map Prod.fst).Nodup
  fresh : ∀ n p, (n, p) ∈ c.members → n < c.nextMember
  counted : c.counted = c.members.countP fun m ↦ m.2.live
  bounded : c.counted ≤ c.room
  room : 0 < c.room
  served : c.queue ≠ [] → 0 < c.counted

section Members

variable {first last : List (Nat × Phase)} {n : Nat} {p : Phase}

/-- A worker that begins has a number that no other has. -/
theorem distinct_joined {members : List (Nat × Phase)} (h : (members.map Prod.fst).Nodup)
    (hfresh : ∀ m q, (m, q) ∈ members → m < n) (p : Phase) :
    ((members ++ [(n, p)]).map Prod.fst).Nodup := by
  rw [List.map_append, List.map_singleton, List.nodup_append]
  refine ⟨h, List.nodup_singleton _, ?_⟩
  intro m hm m' hm'
  obtain ⟨⟨_, q⟩, hmem, rfl⟩ := List.mem_map.1 hm
  rw [List.mem_singleton.1 hm']
  exact Nat.ne_of_lt (hfresh _ q hmem)

theorem fresh_joined {members : List (Nat × Phase)} (h : ∀ m q, (m, q) ∈ members → m < n)
    (p : Phase) : ∀ m q, (m, q) ∈ members ++ [(n, p)] → m < n + 1 := by
  intro m q hmem
  rcases List.mem_append.1 hmem with hold | hnew
  · exact Nat.lt_succ_of_lt (h m q hold)
  · obtain ⟨rfl, rfl⟩ := Prod.mk.inj (List.mem_singleton.1 hnew)
    exact Nat.lt_succ_self _

theorem distinct_moved (h : ((first ++ (n, p) :: last).map Prod.fst).Nodup) (p' : Phase) :
    ((first ++ (n, p') :: last).map Prod.fst).Nodup := by
  rw [List.map_append, List.map_cons] at h ⊢
  exact h

theorem fresh_moved {bound : Nat} (h : ∀ m q, (m, q) ∈ first ++ (n, p) :: last → m < bound)
    (p' : Phase) : ∀ m q, (m, q) ∈ first ++ (n, p') :: last → m < bound := by
  intro m q hmem
  rcases List.mem_append.1 hmem with hfirst | hmem
  · exact h m q (List.mem_append_left _ hfirst)
  · rcases List.mem_cons.1 hmem with heq | hlast
    · obtain ⟨rfl, rfl⟩ := Prod.mk.inj heq
      exact h m p (List.mem_append_right _ List.mem_cons_self)
    · exact h m q (List.mem_append_right _ (List.mem_cons_of_mem _ hlast))

theorem countP_moved (p : Phase) :
    (first ++ (n, p) :: last).countP (fun m ↦ m.2.live) =
      (first ++ last).countP (fun m ↦ m.2.live) + if p.live then 1 else 0 := by
  rw [List.countP_append, List.countP_cons, List.countP_append, Nat.add_assoc]

/-- The number of a worker tells its phase. -/
theorem phase_unique (h : ((first ++ (n, p) :: last).map Prod.fst).Nodup) {q : Phase}
    (hmem : (n, q) ∈ first ++ (n, p) :: last) : q = p := by
  have heq : (n, q) = (n, p) := List.inj_on_of_nodup_map h hmem
    (List.mem_append_right _ List.mem_cons_self) rfl
  exact (Prod.mk.inj heq).2

/-- A step of a worker leaves the others where they are. -/
theorem mem_of_ne {m : Nat} {q : Phase} (h : (n, q) ∈ first ++ (m, p) :: last) (hm : m ≠ n) :
    (n, q) ∈ first ++ last := by
  rcases List.mem_append.1 h with hfirst | h
  · exact List.mem_append_left _ hfirst
  · rcases List.mem_cons.1 h with heq | hlast
    · exact absurd (Prod.mk.inj heq).1.symm hm
    · exact List.mem_append_right _ hlast

theorem mem_moved (p : Phase) : ∀ x ∈ first ++ last, x ∈ first ++ (n, p) :: last :=
  ((List.sublist_cons_self _ _).append_left _).subset

end Members

theorem handles_append {tasks : List Task} {task : Task}
    (htasks : tasks.map Task.handle = List.range' 1 tasks.length)
    (htask : task.handle = tasks.length + 1) :
    (tasks ++ [task]).map Task.handle = List.range' 1 (tasks ++ [task]).length := by
  rw [List.map_append, htasks, List.length_append, List.length_singleton, List.range'_1_concat,
    List.map_singleton, htask, Nat.add_comm 1]

theorem Sound.step (hc : c.Sound) (h : Step c who c') : c'.Sound := by
  obtain ⟨hconserved, hhandles, hnext, hdistinct, hfresh, hcounted, hbounded, hroom, hserved⟩ := hc
  cases h with
  | stay =>
    exact ⟨hconserved, hhandles, hnext, hdistinct, hfresh, hcounted, hbounded, hroom, hserved⟩
  | join task hhandle hlt =>
    constructor
    case conserved => rw [← hconserved, List.append_assoc]
    case handles => exact handles_append hhandles (hhandle.trans hnext)
    case next => rw [hnext, List.length_append, List.length_singleton]
    case distinct => exact distinct_joined hdistinct hfresh _
    case fresh => exact fresh_joined hfresh _
    case counted =>
      rw [List.countP_append, ← hcounted]
      rfl
    case bounded => exact hlt
    case room => exact hroom
    case served =>
      intro _
      exact Nat.succ_pos _
  | wait task hhandle hle =>
    constructor
    case conserved => rw [← hconserved, List.append_assoc]
    case handles => exact handles_append hhandles (hhandle.trans hnext)
    case next => rw [hnext, List.length_append, List.length_singleton]
    case distinct => exact hdistinct
    case fresh => exact hfresh
    case counted => exact hcounted
    case bounded => exact hbounded
    case room => exact hroom
    case served =>
      intro _
      exact Nat.lt_of_lt_of_le hroom hle
  | goOn first last n p p' hmembers hlive hlive' hdistance =>
    rw [hmembers] at hdistinct hfresh hcounted
    refine ⟨hconserved, hhandles, hnext, distinct_moved hdistinct p', fresh_moved hfresh p', ?_,
      hbounded, hroom, hserved⟩
    rw [countP_moved, if_pos hlive']
    rwa [countP_moved, if_pos hlive] at hcounted
  | take first last n task queue hmembers hqueue =>
    rw [hmembers] at hdistinct hfresh hcounted
    refine ⟨?_, hhandles, hnext, distinct_moved hdistinct _, fresh_moved hfresh _, ?_,
      hbounded, hroom, ?_⟩
    · rw [← hconserved, hqueue, List.map_append, List.append_assoc]
      rfl
    · rw [countP_moved] at hcounted ⊢
      exact hcounted
    · intro _
      exact hserved (by rw [hqueue]; exact List.cons_ne_nil _ _)
  | finish first last n hmembers hqueue =>
    rw [hmembers] at hdistinct hfresh hcounted
    refine ⟨hconserved, hhandles, hnext, distinct_moved hdistinct _, fresh_moved hfresh _, ?_,
      Nat.le_trans (Nat.sub_le _ _) hbounded, hroom, ?_⟩
    · rw [countP_moved] at hcounted ⊢
      rw [hcounted]
      rfl
    · intro hne
      exact absurd hqueue hne
  | leave first last n hmembers =>
    rw [hmembers] at hdistinct hfresh hcounted
    have hsub : (first ++ last).Sublist (first ++ (n, .leaving) :: last) :=
      (List.sublist_cons_self _ _).append_left _
    refine ⟨hconserved, hhandles, hnext, hdistinct.sublist (hsub.map _), ?_, ?_,
      hbounded, hroom, hserved⟩
    · intro m q hmem
      exact hfresh m q (hsub.subset hmem)
    · rw [countP_moved] at hcounted
      exact hcounted

/-! ## Tasks that wait -/

/-- A task waits while a worker looks for tasks, which takes no more than so many steps before it
takes the task, unless another worker does. -/
def Awaits (c : Crew) (task : Task) (n steps : Nat) : Prop :=
  ∃ older newer p, c.queue = older ++ task :: newer ∧ (n, p) ∈ c.members ∧ p.live = true ∧
    steps = 3 * older.length + p.distance

/-- The task was taken. -/
def Took (c : Crew) (task : Task) : Prop :=
  ∃ n, (n, task) ∈ c.taken

/-- What was taken stays taken. -/
theorem Step.mem_taken (h : Step c who c') {x : Nat × Task} (hx : x ∈ c.taken) : x ∈ c'.taken := by
  cases h with
  | take => exact List.mem_append_left _ hx
  | _ => exact hx

/-- While a task waits, no step leads a worker away from it, and those of this worker lead
nearer. -/
theorem Awaits.step {task : Task} {n steps : Nat} (h : c.Awaits task n steps) (hc : c.Sound)
    (hstep : Step c who c') :
    c'.Took task ∨ ∃ steps', c'.Awaits task n steps' ∧ steps' ≤ steps ∧
      (who = some n → steps' < steps) := by
  obtain ⟨older, newer, p, hqueue, hmem, hlive, rfl⟩ := h
  cases hstep with
  | stay => exact .inr ⟨_, ⟨older, newer, p, hqueue, hmem, hlive, rfl⟩, Nat.le_refl _, nofun⟩
  | join new =>
    refine .inr ⟨_, ⟨older, newer ++ [new], p, ?_, ?_, hlive, rfl⟩, Nat.le_refl _, nofun⟩
    · rw [hqueue, List.append_assoc, List.cons_append]
    · exact List.mem_append_left _ hmem
  | wait new =>
    refine .inr ⟨_, ⟨older, newer ++ [new], p, ?_, hmem, hlive, rfl⟩, Nat.le_refl _, nofun⟩
    rw [hqueue, List.append_assoc, List.cons_append]
  | goOn first last m q q' hmembers _ hlive' hdistance =>
    by_cases hm : m = n
    · subst hm
      have hq : p = q := phase_unique (hmembers ▸ hc.distinct) (hmembers ▸ hmem)
      subst hq
      refine .inr ⟨_, ⟨older, newer, q', hqueue, ?_, hlive', rfl⟩, ?_⟩
      · exact List.mem_append_right _ List.mem_cons_self
      · omega
    · refine .inr ⟨_, ⟨older, newer, p, hqueue, ?_, hlive, rfl⟩, Nat.le_refl _, ?_⟩
      · exact mem_moved _ _ (mem_of_ne (hmembers ▸ hmem) hm)
      · intro heq
        exact absurd (Option.some.inj heq) hm
  | take first last m oldest queue hmembers hrest =>
    rw [hrest] at hqueue
    cases older with
    | nil =>
      obtain ⟨rfl, rfl⟩ := List.cons.inj hqueue
      exact .inl ⟨m, List.mem_append_right _ (List.mem_singleton_self _)⟩
    | cons _ older =>
      obtain ⟨rfl, rfl⟩ := List.cons.inj hqueue
      -- The queue is shorter; that makes up for the steps until the worker looks again.
      by_cases hm : m = n
      · subst hm
        have hp : p = .idle := phase_unique (hmembers ▸ hc.distinct) (hmembers ▸ hmem)
        subst hp
        refine .inr ⟨_, ⟨older, newer, .busy oldest, rfl, ?_, rfl, rfl⟩, ?_⟩
        · exact List.mem_append_right _ List.mem_cons_self
        · simp only [Phase.distance, List.length_cons]
          omega
      · refine .inr ⟨_, ⟨older, newer, p, rfl, ?_, hlive, rfl⟩, ?_⟩
        · exact mem_moved _ _ (mem_of_ne (hmembers ▸ hmem) hm)
        · rw [List.length_cons]
          omega
  | finish first last m hmembers hempty =>
    rw [hempty] at hqueue
    exact absurd hqueue.symm (List.append_ne_nil_of_right_ne_nil _ (List.cons_ne_nil _ _))
  | leave first last m hmembers =>
    have hm : m ≠ n := by
      rintro rfl
      have hp : p = .leaving := phase_unique (hmembers ▸ hc.distinct) (hmembers ▸ hmem)
      rw [hp] at hlive
      cases hlive
    refine .inr ⟨_, ⟨older, newer, p, hqueue, ?_, hlive, rfl⟩, Nat.le_refl _, ?_⟩
    · exact mem_of_ne (hmembers ▸ hmem) hm
    · intro heq
      exact absurd (Option.some.inj heq) hm

namespace Sound

variable {task : Task}

/-- A task that was submitted was taken, or it waits while some worker looks for tasks. -/
theorem took_or_awaits (hc : c.Sound) (h : task ∈ c.submitted) :
    c.Took task ∨ ∃ n steps, c.Awaits task n steps := by
  rw [← hc.conserved] at h
  rcases List.mem_append.1 h with htaken | hqueue
  · obtain ⟨⟨n, _⟩, hmem, rfl⟩ := List.mem_map.1 htaken
    exact .inl ⟨n, hmem⟩
  · have hcounted := hc.served (List.ne_nil_of_mem hqueue)
    rw [hc.counted] at hcounted
    obtain ⟨⟨n, p⟩, hmem, hlive⟩ := List.countP_pos_iff.1 hcounted
    obtain ⟨older, newer, heq⟩ := List.append_of_mem hqueue
    exact .inr ⟨n, _, older, newer, p, heq, hmem, hlive, rfl⟩

/-- No two tasks that were submitted are equal. -/
theorem nodup_submitted (hc : c.Sound) : c.submitted.Nodup := by
  have hhandles : (c.submitted.map Task.handle).Nodup := by
    rw [hc.handles]
    exact List.nodup_range'
  exact hhandles.of_map

/-- A task that was taken was taken once. -/
theorem taken_once (hc : c.Sound) {n : Nat} (h : (n, task) ∈ c.taken) :
    c.taken.filter (fun x ↦ x.2 = task) = [(n, task)] := by
  have htasks : (c.taken.map Prod.snd).Nodup := by
    have hnodup := hc.nodup_submitted
    rw [← hc.conserved] at hnodup
    exact (List.nodup_append.1 hnodup).1
  have heq : c.taken.filter (fun x ↦ x.2 = task) = c.taken.filter (fun x ↦ x = (n, task)) := by
    refine List.filter_congr fun x hx ↦ ?_
    rw [decide_eq_decide]
    constructor
    · intro hx'
      exact List.inj_on_of_nodup_map htasks hx h hx'
    · rintro rfl
      rfl
  rw [heq, List.filter_eq, List.count_eq_one_of_mem (htasks.of_map _) h]
  rfl

end Sound

end Crew

end MariaClient
