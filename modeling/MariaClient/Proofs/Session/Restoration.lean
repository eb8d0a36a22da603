import MariaClient.Proofs.Session.Settings

/-!
# Sessions restore their settings

A session records a setting after its client has taken it over, and gives every new client the
settings that it has recorded.  So record and client agree after every operation
(`Workspace.settings_restored`), wherever the operations before it failed, as long as nothing else
touches the settings: the statements of callers do not, and a schema that is selected has a name.
-/

namespace MariaClient

variable {σ α β : Type} (srv : Server σ) {a : Account}

/-! ## Steps on a session -/

/-- A step that keeps a session in step with its client. -/
def Link.Steady (a : Account) (x : Attempt (Link (σ × History)) α) : Prop :=
  ∀ ⦃l⦄, l.InStep a → (x l).2.InStep a

namespace Link.Steady

theorem pure (v : α) : Steady a (Pure.pure v : Attempt (Link (σ × History)) α) :=
  fun _ hl ↦ hl

theorem bind {x : Attempt (Link (σ × History)) α} {y : α → Attempt (Link (σ × History)) β}
    (hx : Steady a x) (hy : ∀ v, Steady a (y v)) : Steady a (x >>= y) := by
  intro l hl
  have hstep := hx hl
  rcases hr : x l with ⟨e | v, l'⟩
  · rw [hr] at hstep
    rwa [Attempt.bind_apply_error hr]
  · rw [hr] at hstep
    rw [Attempt.bind_apply_ok hr]
    exact hy v hstep

/-- An operation on whatever client there is that leaves the settings alone. -/
theorem run (neutral : Option α) {x : Nat → Attempt (σ × History) α} (hx : ∀ g, Sets a id (x g)) :
    Steady a (Connection.run (recorded srv) a neutral x) := by
  intro l hl
  obtain ⟨r, -, -, hclient⟩ := run_client srv neutral hx hl
  refine hl.of_record (run_settings _ a _ _ l) fun hc ↦ ?_
  simpa using hclient hc

/-- An operation on the client of a generation that leaves the settings alone. -/
theorem runIn (generation : Nat) (neutral : Option α) {x : Attempt (σ × History) α}
    (hx : Sets a id x) : Steady a (Connection.runIn (recorded srv) a generation neutral x) := by
  intro l hl
  refine hl.of_record (runIn_settings _ a _ _ _ l) ?_
  by_cases ha : Connection.alive generation l = true
  · have hclient := hl.client (Bool.and_eq_true_iff.1 ha).1
    rcases hr : x l.server with ⟨e | v, t⟩
    · rw [Connection.runIn_of_alive _ a ha hr]
      intro hc
      obtain ⟨he, -, hserver⟩ := settle_error_connected _ hc
      rw [hserver]
      exact hx.refused hclient hr he
    · rw [Connection.runIn_of_alive _ a ha hr]
      exact fun _ ↦ hx.done hclient hr
  · rw [Connection.runIn_of_not_alive _ a ha]
    intro hc
    obtain ⟨-, hc', hserver⟩ := settle_error_connected _ hc
    rw [hserver]
    exact hl.client hc'

end Link.Steady

/-- A request whose outcome does not matter keeps a session in step if it is not about settings. -/
theorem quietly_inStep (generation : Nat) {r : Request} (hr : r.ofSettings = false)
    {l : Link (σ × History)} (hl : l.InStep a) :
    (Connection.quietly (recorded srv) generation r l).InStep a := by
  refine hl.of_record (quietly_settings _ _ _ l) ?_
  rw [Connection.quietly]
  split
  · exact fun hc ↦ (History.settings_answered_other hr _ _).trans (hl.client hc)
  · exact hl.client

/-! ## Changes of settings -/

namespace Connection

section Change

variable {f : Settings → Settings}

/-- A session lets its client change a setting and then records the change. -/
def changing (a : Account) (x : Attempt σ Bool) (change : Session → Session) :
    Attempt (Link σ) Bool := do
  let changed ← run srv a (some false) fun _ ↦ x
  if changed then Attempt.update (Link.record change)
  return changed

theorem changing_apply (x : Attempt σ Bool) (change : Session → Session) (l : Link σ) :
    changing srv a x change l =
      match run srv a (some false) (fun _ ↦ x) l with
      | (.ok true, l) => (.ok true, l.record change)
      | (r, l) => (r, l) := by
  unfold changing
  rcases hr : run srv a (some false) (fun _ ↦ x) l with ⟨e | changed, l'⟩
  · rw [Attempt.bind_apply_error hr]
  · rw [Attempt.bind_apply_ok hr]
    cases changed <;> rfl

/-- Nothing is recorded unless the caller is told that the setting was changed. -/
theorem changing_refused {x : Attempt σ Bool} {change : Session → Session} {l : Link σ}
    (h : (changing srv a x change l).1 ≠ .ok true) :
    (changing srv a x change l).2.session.settings = l.session.settings := by
  have hrun := run_settings srv a (some false) (fun _ ↦ x) l
  rw [changing_apply] at h ⊢
  rcases hr : run srv a (some false) (fun _ ↦ x) l with ⟨e | changed, l'⟩
  · rwa [hr] at hrun
  · rw [hr] at hrun h
    cases changed with
    | false => exact hrun
    | true => exact absurd rfl h

/-- A client and the record of its session change together. -/
theorem steady_changing (change : Session → Session) {x : Attempt (σ × History) Bool}
    (hx : Sets a f x)
    (hdone : ∀ {t v t'}, x t = (.ok v, t') → v = true)
    (hconnected : ∀ s, (change s).connected = s.connected)
    (hsettings : ∀ s, (change s).settings = f s.settings)
    (hname : ∀ s, (change s).schema = "" → s.schema = "") :
    Link.Steady a (changing (recorded srv) a x change) := by
  intro l hl
  have hrecord := run_settings (recorded srv) a (some false) (fun _ ↦ x) l
  obtain ⟨r, hshown, hvalue, hclient⟩ := run_client srv (some false) (fun _ ↦ hx) hl
  rw [changing_apply]
  rcases hr : run (recorded srv) a (some false) (fun _ ↦ x) l with ⟨o, l'⟩
  rw [hr] at hrecord hshown hclient
  rcases r with e | v
  · have hl' : l'.InStep a := hl.of_record hrecord hclient
    rcases o with e' | _ | _
    · exact hl'
    · exact hl'
    · exact absurd hshown.symm (shown_error_ne e)
  · obtain ⟨_, t, t', hxt⟩ := hvalue v rfl
    cases hdone hxt
    cases hshown
    constructor
    · intro hc
      refine (hclient ((hconnected _).symm.trans hc)).trans ?_
      exact congrArg some ((congrArg f hrecord).symm.trans (hsettings _).symm)
    · intro h
      exact hl.schema ((congrArg Settings.schema hrecord).symm.trans (hname _ h))

end Change

theorem setSchema_eq_changing (schema : String) :
    setSchema srv a schema =
      changing srv a (do srv.ask (.selectDb schema); return true) fun s ↦ { s with schema } := rfl

/-- Automatic commits are changed unless they are as they should be. -/
theorem setAutoCommit_apply (on : Bool) (l : Link σ) :
    setAutoCommit srv a on l =
      if l.session.autoCommit = on then (.ok true, l)
      else changing srv a (do discard (srv.ask (.query (autoCommitSql on))); return true)
        (fun s ↦ { s with autoCommit := on }) l := by
  unfold setAutoCommit
  rw [Attempt.bind_apply_ok (x := Attempt.state) rfl]
  split <;> rfl

theorem steady_setSchema {schema : String} (hname : schema ≠ "") :
    Link.Steady a (setSchema (recorded srv) a schema) := by
  rw [setSchema_eq_changing]
  refine steady_changing srv _ ((Sets.ask srv (.selectDb schema)).map fun _ ↦ true) ?_
    (fun _ ↦ rfl) (fun _ ↦ rfl) fun _ h ↦ absurd h hname
  intro t v t' h
  obtain ⟨_, _, -, hpure⟩ := Attempt.of_bind_ok h
  cases hpure
  rfl

theorem steady_setAutoCommit (on : Bool) :
    Link.Steady a (setAutoCommit (recorded srv) a on) := by
  intro l hl
  rw [setAutoCommit_apply]
  split
  · exact hl
  · have hsettings (s : Session) : ({ s with autoCommit := on } : Session).settings =
        Settings.after (.query (autoCommitSql on)) s.settings :=
      (Settings.after_autoCommitSql on s.settings).symm
    refine steady_changing srv (fun s ↦ { s with autoCommit := on })
      ((Sets.ask srv _).discard.map fun _ ↦ true) ?_ (fun _ ↦ rfl) hsettings (fun _ ↦ id) hl
    intro t v t' h
    obtain ⟨_, _, -, hpure⟩ := Attempt.of_bind_ok h
    cases hpure
    rfl

end Connection

/-! ## Operations -/

/-- An operation on settings. -/
def Operation.ofSettings : Operation → Bool
  | setSchema _ => true
  | setAutoCommit _ => true
  | _ => false

/-- An operation whose caller leaves the settings to the session: a statement is not about them, and
a schema that is selected has a name. -/
def Operation.sparesSettings : Operation → Bool
  | setSchema schema => schema != ""
  | execute sql => !(Request.query sql).ofSettings
  | insert sql => !(Request.query sql).ofSettings
  | query sql => !(Request.query sql).ofSettings
  | prepare sql => !(Request.query sql).ofSettings
  | _ => true

theorem Transaction.endSql_ofSettings (commit : Bool) :
    (Request.query (endSql commit)).ofSettings = false := by
  cases commit <;> decide

theorem Entity.farewell_ofSettings (e : Entity) : e.farewell.ofSettings = false := by
  cases e with
  | statement s => rfl
  | transaction t => exact Transaction.endSql_ofSettings false
  | savePoint owner p => exact Request.ofSettings_append _ (by decide)

namespace Workspace

section Operations

variable {w : Workspace (σ × History)}

/-- What is made of the outcome of a step on the session does not matter. -/
theorem inStep_onLink {x : Attempt (Link (σ × History)) α} (hx : Link.Steady a x) (f : α → Outcome)
    (hw : w.link.InStep a) : (onLink (do return f (← x)) w).2.link.InStep a := by
  change ((do return f (← x) : Attempt (Link (σ × History)) Outcome) w.link).2.InStep a
  rw [View.bind_pure_state]
  exact hx hw

theorem inStep_add {x : Attempt (Link (σ × History)) α} (hx : Link.Steady a x) (f : α → Entity)
    (hw : w.link.InStep a) : ((do add (f (← onLink x))) w).2.link.InStep a := by
  have hstep := hx hw
  rcases hr : x w.link with ⟨e | v, l⟩
  · rw [hr] at hstep
    rwa [Attempt.bind_apply_error (onLink_apply hr)]
  · rw [hr] at hstep
    rw [Attempt.bind_apply_ok (onLink_apply hr)]
    exact hstep

theorem inStep_withStatement (number : Nat)
    {x : Statement → Attempt (Link (σ × History)) Outcome}
    (hx : ∀ s l, (x s l).2 = (s.run (recorded srv) a l).2) (hw : w.link.InStep a) :
    (withStatement number x w).2.link.InStep a := by
  unfold withStatement
  split
  next s hs =>
    change (x s w.link).2.InStep a
    rw [hx]
    exact Link.Steady.runIn srv _ _ ((Sets.ask_other srv rfl).map some) hw
  next => exact hw

theorem inStep_cleanUps (es : List (Nat × Entity)) {l : Link (σ × History)} (hl : l.InStep a) :
    (es.foldl (fun l (_, e) ↦ cleanUp (recorded srv) e l) l).InStep a := by
  induction es generalizing l with
  | nil => exact hl
  | cons x es ih =>
    refine ih ?_
    change (cleanUp (recorded srv) x.2 l).InStep a
    rw [cleanUp_eq_quietly]
    exact quietly_inStep srv _ x.2.farewell_ofSettings hl

theorem inStep_setParam (number index : Nat) (value : Param) (hw : w.link.InStep a) :
    (setParam number index value w).2.link.InStep a := by
  unfold setParam
  split
  · split <;> exact hw
  · exact hw

theorem inStep_finish (number : Nat) (commit : Bool) (hw : w.link.InStep a) :
    (finish (recorded srv) a number commit w).2.link.InStep a := by
  unfold finish
  split
  next t ht =>
    refine inStep_onLink (.runIn srv _ _ ?_) _ (inStep_cleanUps srv _ hw)
    exact (Sets.ask_other srv (Transaction.endSql_ofSettings commit)).discard.map fun _ ↦ true
  next => exact hw

theorem inStep_createSavePoint (number : Nat) (hw : w.link.InStep a) :
    (createSavePoint (recorded srv) a number w).2.link.InStep a := by
  unfold createSavePoint
  split
  next t ht =>
    have hsql : (Request.query t.counted.lastSavePoint.createSql).ofSettings = false :=
      Request.ofSettings_append _ (by decide)
    exact inStep_add (.runIn srv _ _ (Sets.ask_other srv hsql).discard)
      (fun _ ↦ .savePoint number t.counted.lastSavePoint) hw
  next => exact hw

theorem inStep_releaseSavePoint (number : Nat) (hw : w.link.InStep a) :
    (releaseSavePoint (recorded srv) a number w).2.link.InStep a := by
  unfold releaseSavePoint
  split
  next p hp =>
    have hsql : (Request.query p.releaseSql).ofSettings = false :=
      Request.ofSettings_append _ (by decide)
    exact inStep_onLink (.runIn srv _ _ ((Sets.ask_other srv hsql).discard.map fun _ ↦ true)) _ hw
  next => exact hw

/-- An operation that spares the settings keeps a workspace in step. -/
theorem inStep_perform {op : Operation} (hop : op.sparesSettings = true) (hw : w.link.InStep a) :
    (perform (recorded srv) a op w).2.link.InStep a := by
  cases op with
  | connect => exact inStep_onLink (.run srv _ fun _ ↦ .pure true) _ hw
  | disconnect => exact hw.disconnect srv
  | ping => exact inStep_onLink (.run srv _ fun _ ↦ (Sets.ask_other srv rfl).map _) _ hw
  | setSchema schema =>
    have hname : schema ≠ "" := by simpa [Operation.sparesSettings] using hop
    exact inStep_onLink (Connection.steady_setSchema srv hname) _ hw
  | setAutoCommit on => exact inStep_onLink (Connection.steady_setAutoCommit srv on) _ hw
  | execute sql =>
    have hsql : (Request.query sql).ofSettings = false := Bool.not_eq_eq_eq_not.1 hop
    exact inStep_onLink (.run srv _ fun _ ↦ (Sets.ask_other srv hsql).map _) _ hw
  | insert sql =>
    have hsql : (Request.query sql).ofSettings = false := Bool.not_eq_eq_eq_not.1 hop
    exact inStep_onLink (.run srv _ fun _ ↦ (Sets.ask_other srv hsql).map _) _ hw
  | query sql =>
    have hsql : (Request.query sql).ofSettings = false := Bool.not_eq_eq_eq_not.1 hop
    exact inStep_onLink (.run srv _ fun _ ↦ (Sets.ask_other srv hsql).map _) _ hw
  | prepare sql => exact inStep_add (.run srv _ fun _ ↦ (Sets.ask_other srv rfl).map _) _ hw
  | setParam number index value => exact inStep_setParam number index value hw
  | executeStatement number =>
    refine inStep_withStatement srv number (fun s l ↦ ?_) hw
    rw [View.bind_pure_state]
    exact s.execute_state _ a l
  | insertStatement number =>
    refine inStep_withStatement srv number (fun s l ↦ ?_) hw
    rw [View.bind_pure_state]
    exact s.insert_state _ a l
  | queryStatement number =>
    refine inStep_withStatement srv number (fun s l ↦ ?_) hw
    rw [View.bind_pure_state]
    exact s.query_state _ a l
  | start isolation snapshot =>
    have hisolation : (Request.query isolation.sql).ofSettings = false := by
      cases isolation <;> decide
    have hstart : (Request.query (Transaction.startSql snapshot)).ofSettings = false := by
      cases snapshot <;> decide
    exact inStep_add (.run srv _ fun _ ↦ (Sets.ask_other srv hisolation).discard.bind fun _ ↦
      (Sets.ask_other srv hstart).discard.map _) _ hw
  | finish number commit => exact inStep_finish srv number commit hw
  | createSavePoint number => exact inStep_createSavePoint srv number hw
  | releaseSavePoint number => exact inStep_releaseSavePoint srv number hw
  | drop number => exact inStep_cleanUps srv _ hw

theorem inStep_performAll {ops : List Operation} (hops : ∀ op ∈ ops, op.sparesSettings = true)
    (hw : w.link.InStep a) : (performAll (recorded srv) a ops w).2.link.InStep a := by
  induction ops generalizing w with
  | nil => exact hw
  | cons op ops ih =>
    have hop := inStep_perform srv (hops op List.mem_cons_self) hw
    exact ih (fun op' hop' ↦ hops op' (List.mem_cons_of_mem op hop')) hop

end Operations

/-- An operation on settings that does not tell its caller that it was done records nothing. -/
theorem settings_refused {op : Operation} (hop : op.ofSettings = true) {w : Workspace σ}
    (h : (perform srv a op w).1 ≠ .ok (.flag true)) :
    (perform srv a op w).2.link.session.settings = w.link.session.settings := by
  have hflag {x : Attempt (Link σ) Bool} (hx : (onLink (do return Outcome.flag (← x)) w).1 ≠
      .ok (.flag true)) : (x w.link).1 ≠ .ok true := by
    intro htrue
    refine hx ?_
    change ((do return .flag (← x) : Attempt (Link σ) Outcome) w.link).1 = _
    rw [Attempt.bind_apply_ok (Prod.ext htrue rfl)]
    rfl
  have hstate (x : Attempt (Link σ) Bool) :
      (onLink (do return Outcome.flag (← x)) w).2.link = (x w.link).2 :=
    View.bind_pure_state x Outcome.flag w.link
  cases op with
  | setSchema schema =>
    change (onLink _ w).2.link.session.settings = _
    rw [hstate, Connection.setSchema_eq_changing]
    exact Connection.changing_refused srv (hflag h)
  | setAutoCommit on =>
    have hrefused := hflag h
    change (onLink _ w).2.link.session.settings = _
    rw [hstate]
    rw [Connection.setAutoCommit_apply] at hrefused ⊢
    split at hrefused
    · exact absurd rfl hrefused
    next hne =>
      rw [if_neg hne]
      exact Connection.changing_refused srv hrefused
  | _ => cases hop

/-- In a run whose callers spare the settings, with any answers of the server, a session that has
a client has recorded the settings of this client, however many clients there were before it; and
an operation on settings that fails next leaves what is recorded as it is. -/
theorem settings_restored {ops : List Operation} (hops : ∀ op ∈ ops, op.sparesSettings = true)
    (s : σ) :
    let w := (performAll (recorded srv) a ops (start a (s, []))).2
    (w.link.session.connected = true →
      w.link.server.2.settings a = some w.link.session.settings) ∧
    ∀ op, op.ofSettings = true → (perform (recorded srv) a op w).1 ≠ .ok (.flag true) →
      (perform (recorded srv) a op w).2.link.session.settings = w.link.session.settings := by
  have hstart : (start a (s, []) : Workspace (σ × History)).link.InStep a := ⟨nofun, id⟩
  exact ⟨(inStep_performAll srv hops hstart).client, fun op hop ↦ settings_refused _ hop⟩

/-- A schema that was selected is selected again after a reconnect, and one that the server then
refuses is not recorded. -/
theorem settings_restored_afterRefusal :
    let a : Account := { schema := "x", autoCommit := false }
    let ops : List Operation := [.setSchema "y", .disconnect, .ping]
    let s : Script := { selects := [none, none, none, some (.server 1049 "Unknown database 'z'")] }
    let w := (performAll (recorded Script.server) a ops (start a (s, []))).2
    (∀ op ∈ ops, op.sparesSettings = true) ∧
      w.link.server.2.settings a = some { autoCommit := false, schema := "y" } ∧
      (perform (recorded Script.server) a (.setSchema "z") w).2.link.session.settings =
        { autoCommit := false, schema := "y" } := by
  intro a ops s w
  have hops : ∀ op ∈ ops, op.sparesSettings = true := by decide +kernel +zetaReduce
  have hconnected : w.link.session.connected = true := by decide +kernel +zetaReduce
  have hsettings : w.link.session.settings = { autoCommit := false, schema := "y" } := by
    decide +kernel +zetaReduce
  have hrefuses : failure? (perform (recorded Script.server) a (.setSchema "z") w).1 =
      some (.server 1049 "Unknown database 'z'") := by
    decide +kernel +zetaReduce
  have hrestored := settings_restored Script.server (a := a) hops s
  have hw : (performAll (recorded Script.server) a ops (start a (s, []))).2 = w := rfl
  simp only [hw] at hrestored
  clear_value w
  rw [← hsettings]
  refine ⟨hops, hrestored.1 hconnected, hrestored.2 _ rfl fun h ↦ ?_⟩
  rw [h] at hrefuses
  cases hrefuses

end Workspace

end MariaClient
