import MariaClient.Proofs.Scheduler.Chronicle

/-!
# Results that do not cross

In whatever order things happen to a scheduler, the handles that it gives are distinct, what can be
seen of a job only moves forward, what is read under its handle is what came of its own task, and
rows are handed out once: `Chronicle.results_uncrossed`.
-/

namespace MariaClient

/-! ## What a caller reads -/

namespace JobOutput

variable {out : JobOutput} {handle : Nat}

/-- A number is still there once it was taken. -/
theorem count?_of_afterTaking {n : Nat} (h : out.afterTaking.count? handle = .ok n) :
    out.count? handle = .ok n := by
  cases out with
  | count m => exact h
  | _ => cases h

theorem rows?_of_afterTaking {rs : ResultSet} (h : out.afterTaking.rows? handle = .ok rs) :
    out.rows? handle = .ok rs := by
  cases out with
  | count m => exact h
  | _ => cases h

end JobOutput

namespace Board

variable {b : Board} {handle : Nat}

theorem take_fst : (take handle b).1 = b.output handle >>= JobOutput.rows? handle := by
  unfold take
  rcases b.output handle with e | out
  · rfl
  · rfl

section Reads

variable {α : Type} {read : JobOutput → Except Error α}

/-- What is read is read off an output. -/
theorem output_of_read {a : α} (h : b.output handle >>= read = .ok a) :
    ∃ out, b.output handle = .ok out ∧ read out = .ok a := by
  rcases hout : b.output handle with e | out
  · rw [hout] at h
    cases h
  · rw [hout] at h
    exact ⟨out, rfl, h⟩

/-- Only a job that failed is told to have failed. -/
theorem job?_of_read_failed {n : Nat} {reason : String}
    (hread : ∀ out, read out ≠ .error (.jobFailed n reason))
    (h : b.output handle >>= read = .error (.jobFailed n reason)) :
    n = handle ∧ ∃ keep e, b.job? handle = some ⟨keep, .failed e⟩ ∧ reason = e.message := by
  have houtput : b.output handle = .error (.jobFailed n reason) := by
    rcases hout : b.output handle with e | out
    · rw [hout] at h
      rw [Except.error.inj h]
    · rw [hout] at h
      exact absurd h (hread out)
  unfold output at houtput
  split at houtput
  · cases houtput
  next j hjob =>
    obtain ⟨keep, state⟩ := j
    cases state with
    | failed e =>
      cases houtput
      exact ⟨rfl, keep, e, hjob, rfl⟩
    | _ => cases houtput

end Reads

/-- A caller is told that a job failed. -/
def Reports (b : Board) (handle n : Nat) (reason : String) : Prop :=
  b.count handle = .error (.jobFailed n reason) ∨
    (take handle b).1 = .error (.jobFailed n reason)

theorem job?_of_reports {n : Nat} {reason : String} (h : b.Reports handle n reason) :
    n = handle ∧ ∃ keep e, b.job? handle = some ⟨keep, .failed e⟩ ∧ reason = e.message := by
  rcases h with h | h
  · refine job?_of_read_failed (fun out ↦ ?_) h
    cases out with
    | _ => nofun
  · refine job?_of_read_failed (fun out ↦ ?_) (take_fst.symm.trans h)
    cases out with
    | _ => nofun

/-- Where rows were taken, none are left. -/
theorem take_of_taken {keep : Bool} (h : b.job? handle = some ⟨keep, .succeeded .taken⟩) :
    (take handle b).1 = .error (.resultTaken handle) := by
  rw [take_fst, output, h]
  rfl

/-- Where a job is not remembered, nothing can be taken. -/
theorem take_of_forgotten (h : b.job? handle = none) :
    (take handle b).1 = .error (.unknownHandle handle) := by
  rw [take_fst, output, h]
  rfl

end Board

namespace Sight

variable {s : Sight} {task : Task} {keep : Bool} {result : Except Error JobOutput}

/-- The output that a job still has is that of its task, as far as it was not taken. -/
theorem of_leaves_succeeded {out : JobOutput} (h : Leaves result (.succeeded out)) :
    ∃ given, result = .ok given ∧ (out = given ∨ out = given.afterTaking) := by
  rcases h with h | ⟨given, rfl, h⟩
  · rcases result with e | given
    · cases h
    · cases h
      exact ⟨out, rfl, .inl rfl⟩
  · cases h
    exact ⟨given, rfl, .inr rfl⟩

theorem of_leaves_failed {e : Error} (h : Leaves result (.failed e)) : result = .error e := by
  rcases h with h | ⟨given, -, h⟩
  · rcases result with e' | given
    · cases h
      rfl
    · cases h
  · cases h

end Sight

namespace Scheduler

namespace Chronicle

variable {σ : Type} (srv : Server σ) {v : Chronicle σ} (deeds : Nat → Deed σ)

/-! ## Rows -/

/-- A step that gives rows if it gives anything. -/
theorem rows_of_bind {τ : Type} {x : Attempt τ ResultSet} {t : τ} {out : JobOutput}
    (h : ((x >>= fun rs ↦ pure (.rows rs)) t).1 = .ok out) : ∃ rs, out = .rows rs := by
  rcases hx : x t with ⟨e | rs, t'⟩
  · rw [Attempt.bind_apply_error hx] at h
    cases h
  · rw [Attempt.bind_apply_ok hx] at h
    cases h
    exact ⟨rs, rfl⟩

/-- A query that succeeds gives rows. -/
theorem rows_of_outcome {w : Worker} {task : Task} {s : Scheduler σ} {out : JobOutput}
    (hkind : task.kind = .query) (h : s.outcome srv w task = .ok out) : ∃ rs, out = .rows rs := by
  obtain ⟨handle, kind, target⟩ := task
  subst hkind
  cases target with
  | sql text => exact rows_of_bind h
  | statement number =>
    unfold outcome at h
    dsimp only at h
    split at h
    · cases h
    · exact rows_of_bind h

theorem rows_of_endings {deed : Deed σ} {s : Scheduler σ} {task : Task} {out : JobOutput}
    (h : (task, .ok out) ∈ deed.endings srv s) (hkind : task.kind = .query) :
    ∃ rs, out = .rows rs := by
  cases deed with
  | amid number others =>
    obtain ⟨⟨w, task'⟩, -, heq⟩ := List.mem_map.1 h
    obtain ⟨rfl, hout⟩ := Prod.mk.inj heq
    exact rows_of_outcome others hkind hout
  | submitAlone kind target keep fault =>
    simp only [Deed.endings] at h
    split at h
    · obtain ⟨task', -, heq⟩ := List.mem_map.1 h
      cases (Prod.mk.inj heq).2
    · cases h
  | limit => cases h
  | act action =>
    cases action with
    | advance number =>
      obtain ⟨⟨w, task'⟩, -, heq⟩ := List.mem_map.1 h
      obtain ⟨rfl, hout⟩ := Prod.mk.inj heq
      exact rows_of_outcome srv hkind hout
    | abort =>
      obtain ⟨⟨w, task'⟩, -, heq⟩ := List.mem_map.1 h
      cases (Prod.mk.inj heq).2
    | _ => cases h

/-- What queries have given is rows. -/
def GivesRows (v : Chronicle σ) : Prop :=
  ∀ task out, (task, .ok out) ∈ v.ended → task.kind = .query → ∃ rs, out = .rows rs

theorem givesRows_after (hv : v.GivesRows) (k : Nat) : (v.after srv deeds k).GivesRows := by
  induction k with
  | zero => exact hv
  | succ k ih =>
    intro task out hmem hkind
    rcases List.mem_append.1 hmem with hold | hnew
    · exact ih task out hold hkind
    · exact rows_of_endings srv hnew hkind

/-! ## Jobs that were submitted -/

section Jobs

variable {task : Task} {keep : Bool}

/-- A job with an output or an error has ended, with just this result. -/
theorem ended_of_finished (hv : v.docket.Sound) (hmem : (task, keep) ∈ v.submitted) {j : Job}
    (hjob : v.scheduler.board.job? task.handle = some j)
    (hfinished : j.state.status.isFinished = true) :
    ∃ result, v.Ended task result ∧ Sight.Leaves result j.state := by
  obtain ⟨result, -, -, hended, hleaves⟩ := (hv.stories task keep hmem).leaves hjob hfinished
  exact ⟨result, hended, hleaves⟩

/-- What is read off an output is read off what the task gave. -/
theorem ended_of_output (hv : v.docket.Sound) (hmem : (task, keep) ∈ v.submitted)
    {out : JobOutput} (hout : v.scheduler.board.output task.handle = .ok out) :
    ∃ given, v.Ended task (.ok given) ∧ (out = given ∨ out = given.afterTaking) := by
  obtain ⟨keep', hjob⟩ := Board.job?_of_output hout
  obtain ⟨result, hended, hleaves⟩ := ended_of_finished hv hmem hjob rfl
  obtain ⟨given, rfl, hgiven⟩ := Sight.of_leaves_succeeded hleaves
  exact ⟨given, hended, hgiven⟩

theorem ended_of_count (hv : v.docket.Sound) (hmem : (task, keep) ∈ v.submitted) {n : Nat}
    (hcount : v.scheduler.board.count task.handle = .ok n) :
    ∃ out, v.Ended task (.ok out) ∧ out.count? task.handle = .ok n := by
  obtain ⟨out, hout, hread⟩ := Board.output_of_read hcount
  obtain ⟨given, hended, rfl | rfl⟩ := ended_of_output hv hmem hout
  · exact ⟨out, hended, hread⟩
  · exact ⟨given, hended, JobOutput.count?_of_afterTaking hread⟩

theorem ended_of_take (hv : v.docket.Sound) (hmem : (task, keep) ∈ v.submitted) {rs : ResultSet}
    (htake : (Board.take task.handle v.scheduler.board).1 = .ok rs) :
    ∃ out, v.Ended task (.ok out) ∧ out.rows? task.handle = .ok rs := by
  obtain ⟨out, hout, hread⟩ := Board.output_of_read (Board.take_fst.symm.trans htake)
  obtain ⟨given, hended, rfl | rfl⟩ := ended_of_output hv hmem hout
  · exact ⟨out, hended, hread⟩
  · exact ⟨given, hended, JobOutput.rows?_of_afterTaking hread⟩

theorem ended_of_reports (hv : v.docket.Sound) (hmem : (task, keep) ∈ v.submitted) {n : Nat}
    {reason : String} (h : v.scheduler.board.Reports task.handle n reason) :
    n = task.handle ∧ ∃ e, v.Ended task (.error e) ∧ reason = e.message := by
  obtain ⟨hn, keep', e, hjob, hreason⟩ := Board.job?_of_reports h
  obtain ⟨result, hended, hleaves⟩ := ended_of_finished hv hmem hjob rfl
  obtain rfl := Sight.of_leaves_failed hleaves
  exact ⟨hn, e, hended, hreason⟩

/-- The rows that are taken of a query are what its task gave. -/
theorem ended_of_take_query (hv : v.docket.Sound) (hrows : v.GivesRows)
    (hmem : (task, keep) ∈ v.submitted) (hkind : task.kind = .query) {rs : ResultSet}
    (htake : (Board.take task.handle v.scheduler.board).1 = .ok rs) :
    v.Ended task (.ok (.rows rs)) := by
  obtain ⟨out, hended, hread⟩ := ended_of_take hv hmem htake
  have hout : (task, .ok out) ∈ v.ended :=
    List.mem_of_mem_filter (hended ▸ List.mem_singleton_self _)
  obtain ⟨rs', rfl⟩ := hrows task out hout hkind
  cases hread
  exact hended

/-- Once the rows of a query were taken, nothing more is to be had of it. -/
theorem spent_of_take (hv : v.docket.Sound) (hrows : v.GivesRows)
    (hmem : (task, keep) ∈ v.submitted) (hkind : task.kind = .query) {rs : ResultSet}
    (htake : (Board.take task.handle v.scheduler.board).1 = .ok rs) {v' : Chronicle σ}
    (hv' : v'.docket.Sound) (hmem' : (task, keep) ∈ v'.submitted)
    (hboard : v'.scheduler.board = (Board.take task.handle v.scheduler.board).2) :
    (v'.docket.sight task.handle).Spent ∧
      ∃ keep', v'.scheduler.board.job? task.handle = some ⟨keep', .succeeded .taken⟩ := by
  obtain ⟨out, hout, hread⟩ := Board.output_of_read (Board.take_fst.symm.trans htake)
  obtain ⟨keep', hjob⟩ := Board.job?_of_output hout
  have htaken : out.afterTaking = .taken := by
    obtain ⟨given, hended, hgiven⟩ := ended_of_output hv hmem hout
    obtain ⟨rs', rfl⟩ := hrows task given
      (List.mem_of_mem_filter (hended ▸ List.mem_singleton_self _)) hkind
    rcases hgiven with rfl | rfl
    · rfl
    · rfl
  have hjob' : v'.scheduler.board.job? task.handle = some ⟨keep', .succeeded .taken⟩ := by
    rw [hboard, Board.take, hout]
    dsimp only
    rw [Board.job?_setState, if_pos rfl, hjob, htaken]
    rfl
  obtain ⟨result, hqueued, hphases, -⟩ := (hv'.stories task keep hmem').leaves hjob' rfl
  refine ⟨⟨hqueued, hphases, fun j hj ↦ ?_⟩, keep', hjob'⟩
  cases hjob'.symm.trans hj
  rfl

end Jobs

/-! ## What callers are told -/

/-- What can be seen of a job. -/
def status (v : Chronicle σ) (handle : Nat) : JobStatus :=
  v.scheduler.board.status handle

/-- The rows that a caller who takes them now is given. -/
def handed (v : Chronicle σ) (handle : Nat) : Except Error ResultSet :=
  (Board.take handle v.scheduler.board).1

/-- Nothing is handed out of a job of which nothing is to be had. -/
theorem handed_of_spent {handle : Nat} (h : (v.docket.sight handle).Spent) :
    ∃ e, v.handed handle = .error e := by
  rcases hjob : v.scheduler.board.job? handle with _ | ⟨keep, state⟩
  · exact ⟨_, Board.take_of_forgotten hjob⟩
  · obtain rfl : state = .succeeded .taken := h.taken _ hjob
    exact ⟨_, Board.take_of_taken hjob⟩

section Run

variable {task : Task} {keep : Bool} {k j : Nat}

theorem status_forward (hv : v.docket.Sound) (hmem : (task, keep) ∈ (v.after srv deeds k).submitted)
    (hkj : k ≤ j) :
    ((v.after srv deeds k).status task.handle).Forward
      ((v.after srv deeds j).status task.handle) :=
  (steps_after srv deeds hv hkj).forward (sound_after srv deeds hv k) hmem

/-- Once the rows of a query were handed out, no others are, and until the job is released callers
are told so. -/
theorem handed_after_take (hv : v.docket.Sound) (hrows : v.GivesRows)
    (hmem : (task, keep) ∈ (v.after srv deeds k).submitted) (hkind : task.kind = .query)
    (hdeed : deeds k = .act (.take task.handle)) {rs : ResultSet}
    (htake : (v.after srv deeds k).handed task.handle = .ok rs) (hkj : k < j) :
    (∃ e, (v.after srv deeds j).handed task.handle = .error e) ∧
      ((∀ i, k < i → i < j → (deeds i).releases? ≠ some task.handle) →
        (v.after srv deeds j).handed task.handle = .error (.resultTaken task.handle)) := by
  have hsound (i : Nat) := sound_after srv deeds hv i
  have hmem' := (steps_after srv deeds hv (Nat.le_succ k)).mem_submitted hmem
  have hboard : (v.after srv deeds (k + 1)).scheduler.board =
      (Board.take task.handle (v.after srv deeds k).scheduler.board).2 := by
    rw [after, step, hdeed]
    rfl
  obtain ⟨hspent, keep', htaken⟩ := spent_of_take (hsound k) (givesRows_after srv deeds hrows k)
    hmem hkind htake (hsound (k + 1)) hmem' hboard
  obtain ⟨hspent', hjob⟩ := (steps_after srv deeds hv hkj).spent (hsound (k + 1)) hmem' hspent
  refine ⟨handed_of_spent hspent', fun hkept ↦ ?_⟩
  refine Board.take_of_taken ((hjob ?_).trans htaken)
  rintro ⟨i, hki, hij, hrel⟩
  exact hkept i hki hij hrel

end Run

/-- What callers are told of a job at a point of a run, and from then on.  `run` is what the run
leaves at each point. -/
structure Faithful (run : Nat → Chronicle σ) (deeds : Nat → Deed σ) (k : Nat) (task : Task)
    (keep : Bool) : Prop where
  /-- What can be seen of the job only moves forward. -/
  forward : ∀ j, k ≤ j → ((run k).status task.handle).Forward ((run j).status task.handle)
  removed : (run k).status task.handle = .removed →
    ∀ j, k ≤ j → (run j).status task.handle = .removed
  /-- If it is not to be kept, it is never seen to be finished. -/
  unkept : keep = false → ((run k).status task.handle).isFinished = false
  /-- What is read is what came of the job's own task. -/
  counted : ∀ n, (run k).scheduler.board.count task.handle = .ok n →
    ∃ out, (run k).Ended task (.ok out) ∧ out.count? task.handle = .ok n
  given : ∀ rs, (run k).handed task.handle = .ok rs →
    ∃ out, (run k).Ended task (.ok out) ∧ out.rows? task.handle = .ok rs
  reported : ∀ n reason, (run k).scheduler.board.Reports task.handle n reason →
    n = task.handle ∧ ∃ e, (run k).Ended task (.error e) ∧ reason = e.message
  /-- The rows of a query are handed to one caller, and those who come later are told so unless the
  job was released. -/
  once : task.kind = .query → deeds k = .act (.take task.handle) →
    ∀ rs, (run k).handed task.handle = .ok rs →
      (run k).Ended task (.ok (.rows rs)) ∧
        ∀ j, k < j →
          (∃ e, (run j).handed task.handle = .error e) ∧
            ((∀ i, k < i → i < j → (deeds i).releases? ≠ some task.handle) →
              (run j).handed task.handle = .error (.resultTaken task.handle))

/-- Callers, workers, jobs that break off and workers that cannot begin may come in any order, and
jobs may be released at any time.  All handles that were ever given are distinct, and callers are
told of each job only what came of its own task. -/
theorem results_uncrossed (a : Account) (maxWorkers : Nat) (server : σ) (deeds : Nat → Deed σ)
    (k : Nat) :
    ((((start a maxWorkers server).after srv deeds k).submitted.map fun x ↦ x.1.handle).Nodup) ∧
      ∀ task keep, (task, keep) ∈ ((start a maxWorkers server).after srv deeds k).submitted →
        Faithful ((start a maxWorkers server).after srv deeds) deeds k task keep := by
  have hstart := sound_start a maxWorkers server
  have hsound := sound_after srv deeds hstart k
  have hrows : (start a maxWorkers server).GivesRows := fun _ _ hmem ↦ absurd hmem List.not_mem_nil
  refine ⟨?_, fun task keep hmem ↦ ?_⟩
  · have hhandles := hsound.handles
    rw [docket] at hhandles
    rw [hhandles]
    exact List.nodup_range'
  · constructor
    case forward => exact fun j hkj ↦ status_forward srv deeds hstart hmem hkj
    case removed =>
      intro hremoved j hkj
      have hforward := status_forward srv deeds hstart hmem hkj
      rw [hremoved] at hforward
      exact hforward.eq_removed
    case unkept =>
      rintro rfl
      exact (hsound.stories task false hmem).unkept
    case counted => exact fun n ↦ ended_of_count hsound hmem
    case given => exact fun rs ↦ ended_of_take hsound hmem
    case reported => exact fun n reason ↦ ended_of_reports hsound hmem
    case once =>
      intro hkind hdeed rs htake
      have hended := ended_of_take_query hsound (givesRows_after srv deeds hrows k) hmem hkind htake
      refine ⟨hended, fun j hkj ↦ ?_⟩
      exact handed_after_take srv deeds hstart hrows hmem hkind hdeed htake hkj

/-- A query whose rows many callers try to take. -/
def oneQuery : Nat → Deed Script
  | 0 => .act (.submit .query (.sql "SELECT 1") true)
  | 1 | 2 | 3 | 4 => .act (.advance 1)
  | _ + 5 => .act (.take 1)

theorem results_uncrossed_oneQuery :
    ∃ rs, ((start {} 1 {}).after Script.server oneQuery 5).handed 1 = .ok rs ∧
      ((start {} 1 {}).after Script.server oneQuery 5).Ended
        ⟨1, .query, .sql "SELECT 1"⟩ (.ok (.rows rs)) ∧
      ∀ j, 5 < j →
        ((start {} 1 {}).after Script.server oneQuery j).handed 1 = .error (.resultTaken 1) := by
  have hmem : (⟨1, .query, .sql "SELECT 1"⟩, true) ∈
      ((start {} 1 {}).after Script.server oneQuery 5).submitted := by
    decide +kernel
  have hok : (((start {} 1 {}).after Script.server oneQuery 5).handed 1).isOk = true := by
    decide +kernel
  rcases hrs : ((start {} 1 {}).after Script.server oneQuery 5).handed 1 with e | rs
  · rw [hrs] at hok
    cases hok
  · have hfaithful := (results_uncrossed Script.server {} 1 {} oneQuery 5).2 _ true hmem
    obtain ⟨hended, hlater⟩ := hfaithful.once rfl rfl rs hrs
    refine ⟨rs, hrs, hended, fun j hj ↦ (hlater j hj).2 fun i hi _ ↦ ?_⟩
    obtain ⟨m, rfl⟩ := Nat.exists_eq_add_of_le' (Nat.le_of_lt hi)
    nofun

end Chronicle

end Scheduler

end MariaClient
