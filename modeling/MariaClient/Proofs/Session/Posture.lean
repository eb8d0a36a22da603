import MariaClient.Client.Remote
import MariaClient.Proofs.Session.Restoration

/-!
# Raising and hiding errors

An account either raises errors or hides them, and this changes nothing but what callers are told.
A step that is the same in both postures, but for its outcome, is `Twinned`.  It also never looks at
the last error of its session, so that the last error afterwards is the one that it leaves behind,
or the one from before it.  `Workspace.postures_agree` compares whole runs.
-/

namespace MariaClient

/-- The account that raises errors or hides them. -/
def Account.raising (a : Account) (raise : Bool) : Account :=
  { a with errors := { a.errors with raise } }

/-- A server that connects clients without asking who will see its errors. -/
def Server.Indifferent {σ : Type} (srv : Server σ) : Prop :=
  ∀ a raise, srv.connect (Account.raising a raise) = srv.connect a

theorem Remote.server_indifferent : Remote.server.Indifferent :=
  fun _ _ ↦ rfl

theorem Script.server_indifferent : Script.server.Indifferent :=
  fun _ _ ↦ rfl

variable {σ α β : Type}

/-- What a caller is told of an outcome: an error that is hidden turns into the neutral value, if
there is any. -/
def told (raise : Bool) (neutral : Option α) : Except Error α → Except Error α
  | .ok v => .ok v
  | .error e =>
    match neutral with
    | some v => if raise then .error e else .ok v
    | none => .error e

@[simp] theorem told_ok (raise : Bool) (neutral : Option α) (v : α) :
    told raise neutral (.ok v) = .ok v := rfl

@[simp] theorem told_none (raise : Bool) (r : Except Error α) : told raise none r = r := by
  cases r <;> rfl

@[simp] theorem told_raising (neutral : Option α) (r : Except Error α) :
    told true neutral r = r := by
  rcases r with e | v
  · cases neutral <;> rfl
  · rfl

/-- The last error that a session is left with: none, some error, or the one that it had. -/
inductive Mark
  | kept
  | left (e : Option RecordedError)

namespace Mark

/-- The last error after it was marked. -/
def apply : Mark → Option RecordedError → Option RecordedError
  | kept, e => e
  | left e, _ => e

/-- An error is left behind exactly if there was one. -/
def Fits : Mark → Except Error α → Prop
  | m, .error e => m = left (some ⟨e.code, e.message⟩)
  | m, .ok _ => m = kept ∨ m = left none

end Mark

/-! ## States with a last error -/

/-- How a state shows its last error. -/
structure Ledger (τ : Type) where
  lastError : τ → Option RecordedError
  put : Option RecordedError → τ → τ
  lastError_put : ∀ e t, lastError (put e t) = e
  put_lastError : ∀ t, put (lastError t) t = t

namespace Ledger

/-- A session with its last error. -/
def link : Ledger (Link σ) where
  lastError l := l.session.lastError
  put e := Link.record fun s ↦ { s with lastError := e }
  lastError_put _ _ := rfl
  put_lastError _ := rfl

/-- The session of a workspace. -/
def workspace : Ledger (Workspace σ) where
  lastError w := w.link.session.lastError
  put e w := { w with link := link.put e w.link }
  lastError_put _ _ := rfl
  put_lastError _ := rfl

variable {τ : Type} {v : Ledger τ}

/-- A step that does the same in both postures, whatever the last error is, and leaves an error
behind exactly if it has one to tell.  A hidden error turns into the neutral value. -/
def Twinned (v : Ledger τ) (neutral : Option α) (x : Bool → Attempt τ α) : Prop :=
  ∀ t, ∃ r t' m, Mark.Fits m r ∧
    ∀ raise e, x raise (v.put e t) = (told raise neutral r, v.put (m.apply e) t')

/-- A step that always succeeds and knows nothing of errors. -/
def Still (v : Ledger τ) (x : Attempt τ α) : Prop :=
  ∀ t, ∃ r t', ∀ e, x (v.put e t) = (.ok r, v.put e t')

theorem still_pure (r : α) : v.Still (pure r : Attempt τ α) :=
  fun t ↦ ⟨r, t, fun _ ↦ rfl⟩

/-- What follows a step whose errors are hidden goes on with the neutral value, and must then
leave everything as it is. -/
theorem Twinned.bind {x : Bool → Attempt τ α} {f : α → Attempt τ β} {neutral : α} {neutral' : β}
    (hx : v.Twinned (some neutral) x) (hf : ∀ r, v.Still (f r))
    (hneutral : f neutral = pure neutral') :
    v.Twinned (some neutral') fun raise ↦ x raise >>= f := by
  intro t
  obtain ⟨r, t', m, hm, hx⟩ := hx t
  rcases r with err | r
  · refine ⟨.error err, t', m, hm, fun raise e ↦ ?_⟩
    cases raise with
    | true => exact Attempt.bind_apply_error (hx true e)
    | false =>
      refine (Attempt.bind_apply_ok (hx false e)).trans ?_
      rw [hneutral]
      rfl
  · obtain ⟨r', t'', hf⟩ := hf r t'
    refine ⟨.ok r', t'', m, hm, fun raise e ↦ ?_⟩
    exact (Attempt.bind_apply_ok (hx raise e)).trans (hf _)

/-- What follows a step whose errors are never hidden. -/
theorem Twinned.bind_none {x : Bool → Attempt τ α} {f : α → Attempt τ β}
    (hx : v.Twinned none x) (hf : ∀ r, v.Still (f r)) :
    v.Twinned none fun raise ↦ x raise >>= f := by
  intro t
  obtain ⟨r, t', m, hm, hx⟩ := hx t
  rcases r with err | r
  · exact ⟨.error err, t', m, hm, fun raise e ↦ Attempt.bind_apply_error (hx raise e)⟩
  · obtain ⟨r', t'', hf⟩ := hf r t'
    refine ⟨.ok r', t'', m, hm, fun raise e ↦ ?_⟩
    exact (Attempt.bind_apply_ok (hx raise e)).trans (hf _)

/-- A step may follow a change that knows nothing of errors. -/
theorem Twinned.after {x : Bool → Attempt τ α} {neutral : Option α} (hx : v.Twinned neutral x)
    (g : τ → τ) (hg : ∀ e t, g (v.put e t) = v.put e (g t)) :
    v.Twinned neutral fun raise t ↦ x raise (g t) := by
  intro t
  obtain ⟨r, t', m, hm, hx⟩ := hx (g t)
  exact ⟨r, t', m, hm, fun raise e ↦ (congrArg (x raise) (hg e t)).trans (hx raise e)⟩

/-- The outcome of a step may be turned into something else, and its neutral value with it. -/
theorem Twinned.map {x : Bool → Attempt τ α} {neutral : Option α} (hx : v.Twinned neutral x)
    (value : α → β) : v.Twinned (neutral.map value) fun raise ↦ do return value (← x raise) := by
  cases neutral with
  | none => exact hx.bind_none fun r ↦ still_pure (value r)
  | some n => exact hx.bind (fun r ↦ still_pure (value r)) rfl

end Ledger

/-! ## Steps on a session -/

namespace Connection

variable (srv : Server σ) (a : Account)

theorem shown_raising (raise : Bool) (neutral : Option α) (r : Except Error α) :
    shown (a.raising raise) neutral r = told raise neutral r := by
  rcases r with e | v
  · cases neutral <;> rfl
  · rfl

theorem disconnect_put (e : Option RecordedError) (l : Link σ) :
    disconnect srv (Ledger.link.put e l) = Ledger.link.put e (disconnect srv l) := by
  unfold disconnect
  by_cases hc : l.session.connected = true
  · have hput : (Ledger.link.put e l).session.connected = true := hc
    rw [if_pos hc, if_pos hput]
    rfl
  · have hput : ¬ (Ledger.link.put e l).session.connected = true := hc
    rw [if_neg hc, if_neg hput]

theorem quietly_put (generation : Nat) (r : Request) (e : Option RecordedError) (l : Link σ) :
    quietly srv generation r (Ledger.link.put e l) =
      Ledger.link.put e (quietly srv generation r l) := by
  unfold quietly
  by_cases ha : alive generation l = true
  · have hput : alive generation (Ledger.link.put e l) = true := ha
    rw [if_pos ha, if_pos hput]
    rfl
  · have hput : ¬ alive generation (Ledger.link.put e l) = true := ha
    rw [if_neg ha, if_neg hput]

variable {srv a}

theorem newClient_raising (hsrv : srv.Indifferent) (raise : Bool) (s : Session) :
    newClient srv (a.raising raise) s = newClient srv a s := by
  unfold newClient
  rw [hsrv a raise]
  rfl

theorem open_put (hsrv : srv.Indifferent) (raise : Bool) (e : Option RecordedError) (l : Link σ) :
    open? srv (a.raising raise) (Ledger.link.put e l) =
      ((open? srv a l).1, Ledger.link.put e (open? srv a l).2) := by
  unfold open?
  by_cases hc : l.session.connected = true
  · have hput : (Ledger.link.put e l).session.connected = true := hc
    rw [if_pos hc, if_pos hput]
  · have hput : ¬ (Ledger.link.put e l).session.connected = true := hc
    have hnew : newClient srv (a.raising raise) (Ledger.link.put e l).session
        (Ledger.link.put e l).server = newClient srv a l.session l.server :=
      congrFun (newClient_raising hsrv raise l.session) l.server
    rw [if_neg hc, if_neg hput, hnew]
    rcases newClient srv a l.session l.server with ⟨err | version, t⟩
    · rfl
    · rfl

/-- What is left when an operation was settled, but for the last error. -/
def ended (srv : Server σ) (r : Except Error α) (l : Link σ) : Link σ :=
  match r with
  | .ok _ => l
  | .error e => if e.breaksConnection then disconnect srv l else l

/-- The mark that settling an operation leaves. -/
def markOf : Except Error α → Mark
  | .ok _ => .left none
  | .error e => .left (some ⟨e.code, e.message⟩)

theorem markOf_fits (r : Except Error α) : (markOf r).Fits r := by
  rcases r with e | v
  · exact rfl
  · exact .inr rfl

theorem settle_put (raise : Bool) (neutral : Option α) (r : Except Error α)
    (e : Option RecordedError) (l : Link σ) :
    settle srv (a.raising raise) neutral r (Ledger.link.put e l) =
      (told raise neutral r, Ledger.link.put ((markOf r).apply e) (ended srv r l)) := by
  rcases r with err | v
  · refine Prod.ext (shown_raising a raise neutral (.error err)) ?_
    dsimp only [settle, ended, markOf, Mark.apply]
    split
    · exact disconnect_put srv _ l
    · rfl
  · rfl

/-- An operation on whatever client there is. -/
theorem twinned_run (hsrv : srv.Indifferent) (neutral : Option α) (x : Nat → Attempt σ α) :
    Ledger.link.Twinned neutral fun raise ↦ run srv (a.raising raise) neutral x := by
  intro l
  rcases ho : open? srv a l with ⟨err | _, l'⟩
  · refine ⟨.error err, ended (α := α) srv (.error err) l', markOf (α := α) (.error err),
      markOf_fits _, fun raise e ↦ ?_⟩
    have hput := open_put hsrv (a := a) raise e l
    rw [ho] at hput
    exact (run_of_open_error srv _ hput).trans (settle_put raise neutral _ e l')
  · rcases hx : x l'.session.generation l'.server with ⟨r, t⟩
    refine ⟨r, ended srv r { l' with server := t }, markOf r, markOf_fits r, fun raise e ↦ ?_⟩
    have hput := open_put hsrv (a := a) raise e l
    rw [ho] at hput
    refine (run_of_open_ok srv _ hput hx).trans ?_
    exact settle_put raise neutral r e { l' with server := t }

/-- An operation on the client of a generation. -/
theorem twinned_runIn (generation : Nat) (neutral : Option α) (x : Attempt σ α) :
    Ledger.link.Twinned neutral fun raise ↦
      runIn srv (a.raising raise) generation neutral x := by
  intro l
  by_cases ha : alive generation l = true
  · rcases hx : x l.server with ⟨r, t⟩
    refine ⟨r, ended srv r { l with server := t }, markOf r, markOf_fits r, fun raise e ↦ ?_⟩
    have hput : alive generation (Ledger.link.put e l) = true := ha
    refine (runIn_of_alive srv _ hput hx).trans ?_
    exact settle_put raise neutral r e { l with server := t }
  · refine ⟨.error .notConnected, ended (α := α) srv (.error .notConnected) l,
      markOf (α := α) (.error .notConnected), markOf_fits _, fun raise e ↦ ?_⟩
    have hput : ¬ alive generation (Ledger.link.put e l) = true := ha
    exact (runIn_of_not_alive srv _ hput).trans (settle_put raise neutral _ e l)

/-! ## Operations on a session -/

/-- Recording a setting, if it was changed, is the same in both postures. -/
theorem still_record {change : Session → Session}
    (hchange : ∀ e s, change { s with lastError := e } = { change s with lastError := e })
    (changed : Bool) :
    Ledger.link.Still (do
      if changed then Attempt.update (Link.record change)
      return changed : Attempt (Link σ) Bool) := by
  intro l
  cases changed with
  | false => exact ⟨false, l, fun _ ↦ rfl⟩
  | true =>
    refine ⟨true, l.record change, fun e ↦ ?_⟩
    exact congrArg (fun s ↦ (Except.ok true, ({ l with session := s } : Link σ)))
      (hchange e l.session)

theorem twinned_changing (hsrv : srv.Indifferent) (x : Attempt σ Bool) (change : Session → Session)
    (hchange : ∀ e s, change { s with lastError := e } = { change s with lastError := e }) :
    Ledger.link.Twinned (some false) fun raise ↦ changing srv (a.raising raise) x change :=
  (twinned_run hsrv (some false) fun _ ↦ x).bind (still_record hchange) rfl

theorem twinned_setSchema (hsrv : srv.Indifferent) (schema : String) :
    Ledger.link.Twinned (some false) fun raise ↦ setSchema srv (a.raising raise) schema :=
  twinned_changing hsrv _ _ fun _ _ ↦ rfl

theorem twinned_setAutoCommit (hsrv : srv.Indifferent) (on : Bool) :
    Ledger.link.Twinned (some false) fun raise ↦ setAutoCommit srv (a.raising raise) on := by
  intro l
  by_cases hon : l.session.autoCommit = on
  · refine ⟨.ok true, l, .kept, .inl rfl, fun raise e ↦ ?_⟩
    have hput : (Ledger.link.put e l).session.autoCommit = on := hon
    exact (setAutoCommit_apply srv on _).trans (if_pos hput)
  · obtain ⟨r, l', m, hm, hx⟩ := twinned_changing (a := a) hsrv
      (do discard (srv.ask (.query (autoCommitSql on))); return true)
      (fun s ↦ { s with autoCommit := on }) (fun _ _ ↦ rfl) l
    refine ⟨r, l', m, hm, fun raise e ↦ ?_⟩
    have hput : ¬ (Ledger.link.put e l).session.autoCommit = on := hon
    exact ((setAutoCommit_apply srv on _).trans (if_neg hput)).trans (hx raise e)

end Connection

namespace Statement

variable {srv : Server σ} {a : Account} (s : Statement)

theorem twinned_execute :
    Ledger.link.Twinned (some 0) fun raise ↦ s.execute srv (a.raising raise) :=
  (Connection.twinned_runIn s.generation (some none) _).bind
    (fun
      | some (.done _) => Ledger.still_pure _
      | some (.rows ..) => Ledger.still_pure _
      | none => Ledger.still_pure _) rfl

theorem twinned_insert :
    Ledger.link.Twinned (some 0) fun raise ↦ s.insert srv (a.raising raise) :=
  (Connection.twinned_runIn s.generation (some none) _).bind
    (fun
      | some (.done _) => Ledger.still_pure _
      | some (.rows ..) => Ledger.still_pure _
      | none => Ledger.still_pure _) rfl

theorem twinned_query :
    Ledger.link.Twinned (some .empty) fun raise ↦ s.query srv (a.raising raise) :=
  (Connection.twinned_runIn s.generation (some none) _).bind
    (fun
      | some (.done _) => Ledger.still_pure _
      | some (.rows ..) => Ledger.still_pure _
      | none => Ledger.still_pure _) rfl

end Statement

/-! ## Operations on a workspace -/

/-- What an operation gives instead of an error that is hidden.  Making something is always an
error if it fails. -/
def Operation.neutral : Operation → Option Outcome
  | connect => some (.flag false)
  | ping => some (.flag false)
  | setSchema _ => some (.flag false)
  | setAutoCommit _ => some (.flag false)
  | execute _ => some (.count 0)
  | insert _ => some (.count 0)
  | query _ => some (.rows .empty)
  | executeStatement _ => some (.count 0)
  | insertStatement _ => some (.count 0)
  | queryStatement _ => some (.rows .empty)
  | finish _ _ => some (.flag false)
  | releaseSavePoint _ => some (.flag false)
  | prepare _ => none
  | start _ _ => none
  | createSavePoint _ => none
  | setParam _ _ _ => none
  | disconnect => none
  | drop _ => none

/-- An operation on a parameter, which no session takes part in. -/
def Operation.ofParam : Operation → Bool
  | setParam _ _ _ => true
  | _ => false

namespace Workspace

variable {srv : Server σ} {a : Account}

theorem twinned_onLink {neutral : Option α} {x : Bool → Attempt (Link σ) α}
    (hx : Ledger.link.Twinned neutral x) :
    Ledger.workspace.Twinned neutral fun raise ↦ onLink (x raise) := by
  intro w
  obtain ⟨r, l, m, hm, hx⟩ := hx w.link
  exact ⟨r, { w with link := l }, m, hm, fun raise e ↦ onLink_apply (hx raise e)⟩

theorem still_add (e : Entity) :
    Ledger.workspace.Still (add e : Attempt (Workspace σ) Outcome) :=
  fun w ↦ ⟨.created w.next, (add e w).2, fun _ ↦ rfl⟩

/-- What is made of the outcome of a step on the session. -/
theorem twinned_told {neutral : Option α} {x : Bool → Attempt (Link σ) α}
    (hx : Ledger.link.Twinned neutral x) (f : α → Outcome) :
    Ledger.workspace.Twinned (neutral.map f) fun raise ↦ onLink do return f (← x raise) :=
  twinned_onLink (hx.map f)

theorem twinned_add {x : Bool → Attempt (Link σ) α} (hx : Ledger.link.Twinned none x)
    (f : α → Entity) :
    Ledger.workspace.Twinned none fun raise ↦ (do add (f (← onLink (x raise)))) :=
  (twinned_onLink hx).bind_none fun r ↦ still_add (f r)

/-- A step on what is found in a workspace, where nothing is done if it is not found. -/
theorem twinned_found (find : Workspace σ → Option α)
    (hfind : ∀ e w, find (Ledger.workspace.put e w) = find w) {neutral : Option Outcome}
    {x : Bool → Attempt (Workspace σ) Outcome} {y : α → Bool → Attempt (Workspace σ) Outcome}
    (hy : ∀ found, Ledger.workspace.Twinned neutral (y found))
    (hsome : ∀ {raise w found}, find w = some found → x raise w = y found raise w)
    (hnone : ∀ {raise w}, find w = none → x raise w = (.ok .nothing, w)) :
    Ledger.workspace.Twinned neutral x := by
  intro w
  cases hw : find w with
  | none =>
    exact ⟨.ok .nothing, w, .kept, .inl rfl, fun raise e ↦ hnone ((hfind e w).trans hw)⟩
  | some found =>
    obtain ⟨r, w', m, hm, hy⟩ := hy found w
    refine ⟨r, w', m, hm, fun raise e ↦ ?_⟩
    exact (hsome ((hfind e w).trans hw)).trans (hy raise e)

theorem twinned_withStatement {neutral : Option Outcome} (number : Nat)
    {x : Statement → Bool → Attempt (Link σ) Outcome}
    (hx : ∀ s, Ledger.link.Twinned neutral (x s)) :
    Ledger.workspace.Twinned neutral fun raise ↦ withStatement number fun s ↦ x s raise := by
  refine twinned_found (fun w ↦ w.statement? number) (fun _ _ ↦ rfl)
    (fun s ↦ twinned_onLink (hx s)) ?_ ?_
  · intro raise w s hs
    rw [withStatement, hs]
  · intro raise w hs
    rw [withStatement, hs]

theorem cleanUp_put (entity : Entity) (e : Option RecordedError) (l : Link σ) :
    cleanUp srv entity (Ledger.link.put e l) = Ledger.link.put e (cleanUp srv entity l) := by
  rw [cleanUp_eq_quietly, cleanUp_eq_quietly, Connection.quietly_put]

theorem dropWhere_put (p : Nat → Entity → Bool) (e : Option RecordedError) (w : Workspace σ) :
    dropWhere srv p (Ledger.workspace.put e w) =
      Ledger.workspace.put e (dropWhere srv p w) := by
  have hfold (es : List (Nat × Entity)) : ∀ l : Link σ,
      es.foldl (fun l x ↦ cleanUp srv x.2 l) (Ledger.link.put e l) =
        Ledger.link.put e (es.foldl (fun l x ↦ cleanUp srv x.2 l) l) := by
    induction es with
    | nil => exact fun _ ↦ rfl
    | cons x es ih =>
      intro l
      rw [List.foldl_cons, List.foldl_cons, ← ih]
      exact congrArg (es.foldl fun l x ↦ cleanUp srv x.2 l) (cleanUp_put x.2 e l)
  exact congrArg (fun link ↦ ({ w with link, entities := _ } : Workspace σ)) (hfold _ w.link)

theorem twinned_finish (number : Nat) (commit : Bool) :
    Ledger.workspace.Twinned (some (.flag false)) fun raise ↦
      finish srv (a.raising raise) number commit := by
  have hend (t : Transaction) : Ledger.link.Twinned (some false) fun raise ↦
      t.finish srv (a.raising raise) commit := Connection.twinned_runIn _ _ _
  have hdrop (e : Option RecordedError) (w : Workspace σ) :
      (dropWhere srv (fun _ e ↦ ownedBy number e) (Ledger.workspace.put e w)).forget number =
        Ledger.workspace.put e ((dropWhere srv (fun _ e ↦ ownedBy number e) w).forget number) :=
    congrArg (forget number) (dropWhere_put _ e w)
  refine twinned_found (fun w ↦ w.transaction? number) (fun _ _ ↦ rfl)
    (fun t ↦ (twinned_told (hend t) .flag).after
      (fun w ↦ (dropWhere srv (fun _ e ↦ ownedBy number e) w).forget number) hdrop) ?_ ?_
  · intro raise w t ht
    rw [finish, ht]
  · intro raise w ht
    rw [finish, ht]

theorem twinned_createSavePoint (number : Nat) :
    Ledger.workspace.Twinned none fun raise ↦ createSavePoint srv (a.raising raise) number := by
  have hcreate (p : SavePoint) : Ledger.link.Twinned none fun raise ↦
      p.create srv (a.raising raise) := Connection.twinned_runIn _ _ _
  refine twinned_found (fun w ↦ w.transaction? number) (fun _ _ ↦ rfl)
    (fun t ↦ (twinned_add (hcreate t.counted.lastSavePoint)
      fun _ ↦ .savePoint number t.counted.lastSavePoint).after
        (replace number (.transaction t.counted)) fun _ _ ↦ rfl) ?_ ?_
  · intro raise w t ht
    rw [createSavePoint, ht]
  · intro raise w ht
    rw [createSavePoint, ht]

theorem twinned_releaseSavePoint (number : Nat) :
    Ledger.workspace.Twinned (some (.flag false)) fun raise ↦
      releaseSavePoint srv (a.raising raise) number := by
  have hrelease (p : SavePoint) : Ledger.link.Twinned (some false) fun raise ↦
      p.release srv (a.raising raise) := Connection.twinned_runIn _ _ _
  refine twinned_found (fun w ↦ w.savePoint? number) (fun _ _ ↦ rfl)
    (fun p ↦ (twinned_told (hrelease p) .flag).after (forget number) fun _ _ ↦ rfl) ?_ ?_
  · intro raise w p hp
    rw [releaseSavePoint, hp]
  · intro raise w hp
    rw [releaseSavePoint, hp]

/-- An operation that is not about a parameter. -/
theorem twinned_perform (hsrv : srv.Indifferent) {op : Operation} (hop : op.ofParam = false) :
    Ledger.workspace.Twinned op.neutral fun raise ↦ perform srv (a.raising raise) op := by
  cases op with
  | connect => exact twinned_told (Connection.twinned_run hsrv _ _) _
  | disconnect =>
    intro w
    refine ⟨.ok .nothing, { w with link := Connection.disconnect srv w.link }, .kept, .inl rfl, ?_⟩
    intro raise e
    exact congrArg (fun link ↦ (Except.ok Outcome.nothing, { w with link }))
      (Connection.disconnect_put srv e w.link)
  | ping => exact twinned_told (Connection.twinned_run hsrv _ _) _
  | setSchema schema => exact twinned_told (Connection.twinned_setSchema hsrv schema) _
  | setAutoCommit on => exact twinned_told (Connection.twinned_setAutoCommit hsrv on) _
  | execute sql => exact twinned_told (Connection.twinned_run hsrv _ _) _
  | insert sql => exact twinned_told (Connection.twinned_run hsrv _ _) _
  | query sql => exact twinned_told (Connection.twinned_run hsrv _ _) _
  | prepare sql => exact twinned_add (Connection.twinned_run hsrv _ _) _
  | setParam number index value => cases hop
  | executeStatement number =>
    exact twinned_withStatement number fun s ↦ s.twinned_execute.map _
  | insertStatement number =>
    exact twinned_withStatement number fun s ↦ s.twinned_insert.map _
  | queryStatement number =>
    exact twinned_withStatement number fun s ↦ s.twinned_query.map _
  | start isolation snapshot => exact twinned_add (Connection.twinned_run hsrv _ _) _
  | finish number commit => exact twinned_finish number commit
  | createSavePoint number => exact twinned_createSavePoint number
  | releaseSavePoint number => exact twinned_releaseSavePoint number
  | drop number =>
    intro w
    refine ⟨.ok .nothing, dropEntity srv number w, .kept, .inl rfl, fun raise e ↦ ?_⟩
    exact congrArg (Prod.mk (Except.ok Outcome.nothing)) (dropWhere_put _ e w)

/-! ## Runs in both postures -/

/-- What an operation does to a workspace, and what it does where there was no last error. -/
theorem perform_told (hsrv : srv.Indifferent) {op : Operation} (hop : op.ofParam = false)
    (w : Workspace σ) :
    ∃ r w' m, Mark.Fits m r ∧ ∀ raise,
      perform srv (a.raising raise) op w =
          (told raise op.neutral r, Ledger.workspace.put (m.apply w.link.session.lastError) w') ∧
        perform srv (a.raising raise) op (Ledger.workspace.put none w) =
          (told raise op.neutral r, Ledger.workspace.put (m.apply none) w') := by
  obtain ⟨r, w', m, hm, hx⟩ := twinned_perform (a := a) hsrv hop w
  exact ⟨r, w', m, hm, fun raise ↦ ⟨hx raise w.link.session.lastError, hx raise none⟩⟩

/-- An operation is told of in one posture as in the other, and leaves the same behind. -/
theorem perform_hidden (hsrv : srv.Indifferent) (op : Operation) (w : Workspace σ) :
    perform srv (a.raising false) op w =
      (told false op.neutral (perform srv (a.raising true) op w).1,
        (perform srv (a.raising true) op w).2) := by
  cases hop : op.ofParam with
  | true =>
    cases op with
    | setParam number index value =>
      exact Prod.ext (told_none false (setParam number index value w).1).symm rfl
    | _ => cases hop
  | false =>
    obtain ⟨r, w', m, -, hx⟩ := perform_told (a := a) hsrv hop w
    rw [(hx true).1, (hx false).1, told_raising]

theorem performAll_hidden (hsrv : srv.Indifferent) (ops : List Operation) (w : Workspace σ) :
    (performAll srv (a.raising false) ops w).2 = (performAll srv (a.raising true) ops w).2 := by
  induction ops generalizing w with
  | nil => rfl
  | cons op ops ih =>
    change (performAll srv (a.raising false) ops (perform srv (a.raising false) op w).2).2 =
      (performAll srv (a.raising true) ops (perform srv (a.raising true) op w).2).2
    rw [perform_hidden hsrv op w]
    exact ih _

/-- An operation sets the last error: there is one afterwards even if there was none before. -/
def SetsLastError (srv : Server σ) (a : Account) (op : Operation) (w : Workspace σ) : Prop :=
  (perform srv a op (Ledger.workspace.put none w)).2.link.session.lastError ≠ none

/-- Where errors are raised, an operation has one to raise exactly if it sets the last error, and
the last error is then this one. -/
theorem perform_raised (hsrv : srv.Indifferent) {op : Operation} (hop : op.ofParam = false)
    (w : Workspace σ) :
    ((∃ e, (perform srv (a.raising true) op w).1 = .error e) ↔
        SetsLastError srv (a.raising true) op w) ∧
      ∀ e, (perform srv (a.raising true) op w).1 = .error e →
        (perform srv (a.raising true) op w).2.link.session.lastError =
          some ⟨e.code, e.message⟩ := by
  obtain ⟨r, w', m, hm, hx⟩ := perform_told (a := a) hsrv hop w
  rw [SetsLastError, (hx true).1, (hx true).2, told_raising]
  rcases r with err | v
  · cases hm
    exact ⟨iff_of_true ⟨err, rfl⟩ nofun, fun e he ↦ by cases he; rfl⟩
  · refine ⟨iff_of_false nofun ?_, nofun⟩
    rcases hm with rfl | rfl
    · exact not_not_intro rfl
    · exact not_not_intro rfl

theorem recorded_indifferent (hsrv : srv.Indifferent) : (recorded srv).Indifferent := by
  intro a raise
  change (fun (t : σ × History) ↦ _) = fun (t : σ × History) ↦ _
  simp only [recorded, hsrv a raise]

/-- Two runs of the same operations with the same answers, one in each posture.  They go through the
same states, and so ask the same of the same clients in the same order; whatever operation comes
next, the hidden outcome is the raised one but for the neutral value in place of an error; and an
error is raised exactly if the last error is set. -/
theorem postures_agree (hsrv : srv.Indifferent) (ops : List Operation) (op : Operation) (s : σ) :
    let raised := (performAll (recorded srv) (a.raising true) ops
      (start (a.raising true) (s, []))).2
    let hidden := (performAll (recorded srv) (a.raising false) ops
      (start (a.raising false) (s, []))).2
    let next := perform (recorded srv) (a.raising true) op raised
    hidden = raised ∧
      perform (recorded srv) (a.raising false) op hidden = (told false op.neutral next.1, next.2) ∧
      (op.ofParam = false →
        ((∃ e, next.1 = .error e) ↔ SetsLastError (recorded srv) (a.raising true) op raised) ∧
          ∀ e, next.1 = .error e →
            next.2.link.session.lastError = some ⟨e.code, e.message⟩) := by
  intro raised hidden next
  have hrecorded := recorded_indifferent hsrv
  have hsame : hidden = raised := performAll_hidden hrecorded ops _
  refine ⟨hsame, ?_, fun hop ↦ perform_raised hrecorded hop raised⟩
  rw [hsame]
  exact perform_hidden hrecorded op raised

/-- The server refuses a schema: the refusal is recorded either way, and only one caller sees it. -/
theorem postures_agree_refusedSchema :
    let a : Account := {}
    let e : Error := .server 1049 "Unknown database 'z'"
    let raised := (performAll (recorded Script.server) (a.raising true) [.ping]
      (start (a.raising true) ({ selects := [some e] }, []))).2
    let hidden := (performAll (recorded Script.server) (a.raising false) [.ping]
      (start (a.raising false) ({ selects := [some e] }, []))).2
    let next := perform (recorded Script.server) (a.raising true) (.setSchema "z") raised
    Script.server.Indifferent ∧ hidden = raised ∧ next.1 = .error e ∧
      perform (recorded Script.server) (a.raising false) (.setSchema "z") hidden =
        (.ok (.flag false), next.2) ∧
      next.2.link.session.lastError = some ⟨1049, e.message⟩ := by
  intro a e raised hidden next
  have hfails : failure? next.1 = some e := by decide +kernel +zetaReduce
  obtain ⟨hsame, htold, hraise⟩ := postures_agree (a := a) Script.server_indifferent [.ping]
    (.setSchema "z") { selects := [some e] }
  have hnext : next.1 = .error e := by
    rcases h : next.1 with err | v
    · rw [h] at hfails
      cases hfails
      rfl
    · rw [h] at hfails
      cases hfails
  refine ⟨Script.server_indifferent, hsame, hnext, ?_, (hraise rfl).2 e hnext⟩
  refine htold.trans ?_
  exact congrArg (fun r ↦ (told false (some (.flag false)) r, next.2)) hnext

end Workspace

end MariaClient
