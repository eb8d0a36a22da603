import MariaClient.Proofs.Session.History

/-!
# What operations report

An operation that answers its caller looks at the error of its last request, and ends a client that
the error broke.  So it asks no broken client and leaves none in use: `keeps_run` and `keeps_runIn`
say this for the two ways in which operations reach a client, and the other laws follow from them.
-/

namespace MariaClient

variable {σ α : Type} (srv : Server σ) (a : Account)

namespace View

/-! ## Steps on a client -/

theorem reports_ask (r : Request) : client.Reports ((recorded srv).ask r) where
  sound {t} ht := by
    obtain ⟨s, h⟩ := t
    have hbroken : h.broken = false := ht.whole rfl
    have hkept : h.reused = false := ht.kept
    rw [recorded_ask]
    rcases hanswer : (srv.ask r s).1 with e | x
    · cases he : e.breaksConnection with
      | true => exact .inr ⟨by simp [client, hbroken, hkept], e, rfl, he⟩
      | false =>
        refine .inl ⟨?_, fun _ ↦ ?_⟩
        · simp [client, hbroken, hkept]
        · simp [client, failure?, breaks, hbroken, he]
    · refine .inl ⟨?_, fun _ ↦ ?_⟩
      · simp [client, hbroken, hkept]
      · simp [client, failure?, breaks, hbroken]
  reused {t} ht := by
    have hr : t.2.reused = true := ht
    simp [client, recorded, hr]

theorem reports_discard {τ : Type} {v : View τ} {x : Attempt τ α} (hx : v.Reports x) :
    v.Reports (discard x) :=
  hx.bind fun _ ↦ (keeps_pure ()).reports

theorem reports_forM {τ β : Type} {v : View τ} {f : β → Attempt τ Unit}
    (hf : ∀ b, v.Reports (f b)) (bs : List β) : v.Reports (bs.forM f) := by
  induction bs with
  | nil => exact (keeps_pure ()).reports
  | cons b bs ih => exact (hf b).bind fun _ ↦ ih

theorem reports_prepareClient (s : Session) :
    client.Reports (Connection.prepareClient (recorded srv) a s) := by
  have hoption (o : String × String) := reports_discard
    (reports_ask srv (.query ("SET OPTION " ++ o.1 ++ "=" ++ o.2)))
  have hoptions := reports_forM hoption a.options
  have hschema := Reports.ite (c := s.schema ≠ "")
    ((reports_ask srv (.selectDb s.schema)).bind fun _ ↦ hoptions) hoptions
  have hcommit := reports_discard (reports_ask srv (.query (Connection.autoCommitSql false)))
  exact .ite (hcommit.bind fun _ ↦ hschema) hschema

/-- What is left of connecting a client: it is prepared, or it is closed and there is none. -/
theorem newClient_apply (s : Session) (t : σ) :
    Connection.newClient srv a s t =
      match srv.connect a t with
      | (.error e, t) => (.error e, t)
      | (.ok version, t) =>
        match Connection.prepareClient srv a s t with
        | (.error e, t) => (.error e, srv.close t)
        | (.ok _, t) => (.ok version, t) := by
  rcases hc : srv.connect a t with ⟨e | version, t'⟩
  · exact Attempt.bind_apply_error hc
  · refine (Attempt.bind_apply_ok hc).trans ?_
    rcases hp : Connection.prepareClient srv a s t' with ⟨e | _, t''⟩
    · simp [Attempt.bind_apply, Attempt.outcome, Attempt.update, Attempt.fail, hp]
    · simp [Attempt.bind_apply, Attempt.outcome, hp]

/-- A client that a session has just got is not broken, whatever became of the ones before. -/
theorem newClient_sound (s : Session) {t : σ × History} (ht : t.2.reused = false) :
    (Connection.newClient (recorded srv) a s t).2.2.reused = false ∧
      ∀ version, (Connection.newClient (recorded srv) a s t).1 = .ok version →
        (Connection.newClient (recorded srv) a s t).2.2.broken = false := by
  obtain ⟨s₀, h⟩ := t
  rw [newClient_apply]
  rcases hc : srv.connect a s₀ with ⟨e | version, s₁⟩
  · rw [recorded_connect_error hc]
    exact ⟨ht, nofun⟩
  · rw [recorded_connect_ok hc]
    have hfresh : client.Sound (s₁, Event.connected :: h) := ⟨ht, fun _ ↦ rfl⟩
    have hprepared := (reports_prepareClient srv a s).sound hfresh
    dsimp only
    rcases hp : Connection.prepareClient (recorded srv) a s (s₁, .connected :: h) with
      ⟨e | _, s₂, h₂⟩
    · rw [hp] at hprepared
      refine ⟨?_, nofun⟩
      rcases hprepared with hs | ⟨hr, -⟩
      · exact hs.kept
      · exact hr
    · rw [hp] at hprepared
      rcases hprepared with hs | ⟨-, _, he, -⟩
      · exact ⟨hs.kept, fun _ _ ↦ hs.whole rfl⟩
      · cases he

theorem newClient_reused (s : Session) {t : σ × History} (ht : t.2.reused = true) :
    (Connection.newClient (recorded srv) a s t).2.2.reused = true := by
  obtain ⟨s₀, h⟩ := t
  rw [newClient_apply]
  rcases hc : srv.connect a s₀ with ⟨e | version, s₁⟩
  · rwa [recorded_connect_error hc]
  · rw [recorded_connect_ok hc]
    have hfresh : (client.history (s₁, Event.connected :: h)).reused = true := ht
    have hprepared := (reports_prepareClient srv a s).reused hfresh
    dsimp only
    rcases hp : Connection.prepareClient (recorded srv) a s (s₁, .connected :: h) with
      ⟨e | _, s₂, h₂⟩
    · rwa [hp] at hprepared
    · rwa [hp] at hprepared

/-! ## Steps on a session -/

/-- After a session was opened there is a client, and after that failed there is none. -/
theorem open_connected (l : Link σ) :
    (Connection.open? srv a l).2.session.connected = (Connection.open? srv a l).1.isOk := by
  unfold Connection.open?
  by_cases hl : l.session.connected = true
  · simp [hl, Except.isOk, Except.toBool]
  · rcases hn : Connection.newClient srv a l.session l.server with ⟨e | version, t⟩
    · simp [hl, Except.isOk, Except.toBool]
    · simp [hl, Except.isOk, Except.toBool]

theorem keeps_open : link.Keeps (Connection.open? (recorded srv) a) where
  sound {l} hl := by
    unfold Connection.open?
    by_cases hc : l.session.connected = true
    · rwa [if_pos hc]
    · rw [if_neg hc]
      have hnew := newClient_sound srv a l.session (t := l.server) hl.kept
      rcases hn : Connection.newClient (recorded srv) a l.session l.server with ⟨e | version, t⟩
      · rw [hn] at hnew
        exact ⟨hnew.1, fun h ↦ absurd h hc⟩
      · rw [hn] at hnew
        exact ⟨hnew.1, fun _ ↦ hnew.2 version rfl⟩
  reused {l} hl := by
    unfold Connection.open?
    by_cases hc : l.session.connected = true
    · rwa [if_pos hc]
    · rw [if_neg hc]
      have hnew := newClient_reused srv a l.session (t := l.server) hl
      rcases hn : Connection.newClient (recorded srv) a l.session l.server with ⟨e | version, t⟩
      · rwa [hn] at hnew
      · rwa [hn] at hnew

/-- A step on the client of a session that has one. -/
theorem onServer_sound {x : Attempt (σ × History) α} (hx : client.Reports x)
    {l : Link (σ × History)} (hl : link.Sound l) (hc : l.session.connected = true) :
    link.Sound (Link.onServer x l).2 ∨ (link.history (Link.onServer x l).2).reused = false ∧
      ∃ e, (Link.onServer x l).1 = .error e ∧ e.breaksConnection = true := by
  have hclient : client.Sound l.server := ⟨hl.kept, fun _ ↦ hl.whole hc⟩
  rcases hx.sound hclient with h | h
  · exact .inl ⟨h.kept, fun _ ↦ h.whole rfl⟩
  · exact .inr h

theorem reports_within {x : Attempt (σ × History) α} (hx : client.Reports x) (generation : Nat) :
    link.Reports (Connection.within generation x) where
  sound {l} hl := by
    unfold Connection.within
    by_cases h : Connection.alive generation l = true
    · rw [if_pos h]
      exact onServer_sound hx hl (Bool.and_eq_true_iff.1 h).1
    · rw [if_neg h]
      exact .inl hl
  reused {l} hl := by
    unfold Connection.within
    by_cases h : Connection.alive generation l = true
    · rw [if_pos h]
      exact hx.reused (t := l.server) hl
    · rwa [if_neg h]

/-- A step on the client of a session, which is connected first if there is none. -/
theorem reports_openAnd {x : Nat → Attempt (σ × History) α} (hx : ∀ g, client.Reports (x g)) :
    link.Reports (do
      Connection.open? (recorded srv) a
      let l ← Attempt.state
      Link.onServer (x l.session.generation)) where
  sound {l} hl := by
    have hkeeps := (keeps_open srv a).sound hl
    have hconnected := open_connected (recorded srv) a l
    rcases ho : Connection.open? (recorded srv) a l with ⟨e | _, l'⟩
    · rw [Attempt.bind_apply_error ho]
      rw [ho] at hkeeps
      exact .inl hkeeps
    · rw [Attempt.bind_apply_ok ho]
      rw [ho] at hkeeps hconnected
      exact onServer_sound (hx _) hkeeps hconnected
  reused {l} hl := by
    have hkeeps := (keeps_open srv a).reused hl
    rcases ho : Connection.open? (recorded srv) a l with ⟨e | _, l'⟩
    · rw [Attempt.bind_apply_error ho]
      rwa [ho] at hkeeps
    · rw [Attempt.bind_apply_ok ho]
      rw [ho] at hkeeps
      exact (hx _).reused (t := l'.server) hkeeps

theorem disconnect_sound {l : Link (σ × History)} (hl : (l.server.2).reused = false) :
    link.Sound (Connection.disconnect (recorded srv) l) := by
  unfold Connection.disconnect
  by_cases hc : l.session.connected = true
  · rw [if_pos hc]
    exact ⟨hl, nofun⟩
  · rw [if_neg hc]
    exact ⟨hl, fun h ↦ absurd h hc⟩

theorem disconnect_reused (l : Link (σ × History)) :
    (link.history (Connection.disconnect (recorded srv) l)).reused = l.server.2.reused := by
  unfold Connection.disconnect
  split <;> rfl

theorem settled_apply (neutral : Option α) (x : Attempt (Link σ) α) (l : Link σ) :
    Connection.settled srv a neutral x l = Connection.settle srv a neutral (x l).1 (x l).2 := rfl

theorem settle_reused (neutral : Option α) (r : Except Error α) (l : Link (σ × History)) :
    (link.history (Connection.settle (recorded srv) a neutral r l).2).reused =
      l.server.2.reused := by
  rcases r with e | r
  · dsimp only [Connection.settle]
    split
    · exact disconnect_reused srv _
    · rfl
  · rfl

/-- Settling ends a client that is broken. -/
theorem keeps_settled (neutral : Option α) {x : Attempt (Link (σ × History)) α}
    (hx : link.Reports x) : link.Keeps (Connection.settled (recorded srv) a neutral x) where
  sound {l} hl := by
    rw [settled_apply]
    have h := hx.sound hl
    rcases hr : x l with ⟨e | r, l'⟩
    · rw [hr] at h
      dsimp only [Connection.settle]
      split
      · refine disconnect_sound srv ?_
        rcases h with h | ⟨h, -⟩
        · exact h.kept
        · exact h
      next he =>
        rcases h with h | ⟨-, _, heq, hb⟩
        · exact ⟨h.kept, h.whole⟩
        · cases heq
          exact absurd hb he
    · rw [hr] at h
      rcases h with h | ⟨-, _, heq, -⟩
      · exact ⟨h.kept, h.whole⟩
      · cases heq
  reused {l} hl := (settle_reused srv a neutral (x l).1 (x l).2).trans (hx.reused hl)

theorem keeps_run (neutral : Option α) {x : Nat → Attempt (σ × History) α}
    (hx : ∀ g, client.Reports (x g)) : link.Keeps (Connection.run (recorded srv) a neutral x) :=
  keeps_settled srv a neutral (reports_openAnd srv a hx)

theorem keeps_runIn (generation : Nat) (neutral : Option α) {x : Attempt (σ × History) α}
    (hx : client.Reports x) :
    link.Keeps (Connection.runIn (recorded srv) a generation neutral x) :=
  keeps_settled srv a neutral (reports_within hx generation)

/-! ## Operations -/

/-- A request whose answer is turned into a value. -/
theorem reports_asked (r : Request) (f : r.Answer → α) :
    client.Reports (do return f (← (recorded srv).ask r)) :=
  (reports_ask srv r).bind fun _ ↦ (keeps_pure _).reports

/-- A request whose answer only tells that it was done. -/
theorem reports_flag (sql : String) :
    client.Reports (do
      discard ((recorded srv).ask (.query sql))
      return true) :=
  (reports_discard (reports_ask srv _)).bind fun _ ↦ (keeps_pure true).reports

/-- The record of a session may change as long as it has a client exactly if it had one. -/
theorem keeps_record {f : Session → Session} (hf : ∀ s, (f s).connected = s.connected) :
    link.Keeps (Attempt.update (Link.record f) : Attempt (Link (σ × History)) Unit) :=
  keeps_update (fun l ↦ hf l.session) fun _ ↦ rfl

theorem keeps_connect : link.Keeps (Connection.connect (recorded srv) a) :=
  keeps_run srv a _ fun _ ↦ (keeps_pure true).reports

theorem keeps_ping : link.Keeps (Connection.ping (recorded srv) a) :=
  keeps_run srv a _ fun _ ↦ reports_asked srv .ping fun _ ↦ true

theorem keeps_setSchema (schema : String) :
    link.Keeps (Connection.setSchema (recorded srv) a schema) := by
  have hselect : link.Keeps (Connection.selectSchema (recorded srv) a schema) :=
    keeps_run srv a _ fun _ ↦ reports_asked srv (.selectDb schema) fun _ ↦ true
  refine hselect.bind fun changed ↦ ?_
  refine .ite (.bind (keeps_record ?_) fun _ ↦ keeps_pure changed) (keeps_pure changed)
  intro s
  rfl

theorem keeps_setAutoCommit (on : Bool) :
    link.Keeps (Connection.setAutoCommit (recorded srv) a on) := by
  have hsend : link.Keeps (Connection.sendAutoCommit (recorded srv) a on) :=
    keeps_run srv a _ fun _ ↦ reports_flag srv _
  refine keeps_state.bind fun l ↦ .ite (keeps_pure true) (hsend.bind fun changed ↦ ?_)
  refine .ite (.bind (keeps_record ?_) fun _ ↦ keeps_pure changed) (keeps_pure changed)
  intro s
  rfl

theorem keeps_execute (sql : String) : link.Keeps (Connection.execute (recorded srv) a sql) :=
  keeps_run srv a _ fun _ ↦ reports_asked srv (.query sql) Connection.affectedRows

theorem keeps_insert (sql : String) : link.Keeps (Connection.insert (recorded srv) a sql) :=
  keeps_run srv a _ fun _ ↦ reports_asked srv (.query sql) Connection.lastInsertId

theorem keeps_query (sql : String) : link.Keeps (Connection.query (recorded srv) a sql) :=
  keeps_run srv a _ fun _ ↦ reports_asked srv (.query sql) Connection.firstRows

theorem keeps_prepare (sql : String) : link.Keeps (Statement.prepare (recorded srv) a sql) :=
  keeps_run srv a _ fun _ ↦ (reports_ask srv (.prepare sql)).bind fun _ ↦ (keeps_pure _).reports

theorem keeps_statementRun (s : Statement) : link.Keeps (s.run (recorded srv) a) :=
  keeps_runIn srv a _ _ (reports_asked srv (.execute s.id s.params) some)

theorem keeps_statementExecute (s : Statement) : link.Keeps (s.execute (recorded srv) a) :=
  (keeps_statementRun srv a s).bind fun
    | some (.done _) => keeps_pure _
    | some (.rows ..) => keeps_pure _
    | none => keeps_pure _

theorem keeps_statementInsert (s : Statement) : link.Keeps (s.insert (recorded srv) a) :=
  (keeps_statementRun srv a s).bind fun
    | some (.done _) => keeps_pure _
    | some (.rows ..) => keeps_pure _
    | none => keeps_pure _

theorem keeps_statementQuery (s : Statement) : link.Keeps (s.query (recorded srv) a) :=
  (keeps_statementRun srv a s).bind fun
    | some (.done _) => keeps_pure _
    | some (.rows ..) => keeps_pure _
    | none => keeps_pure _

theorem keeps_start (isolation : IsolationLevel) (snapshot : Bool) :
    link.Keeps (Transaction.start (recorded srv) a isolation snapshot) :=
  keeps_run srv a _ fun _ ↦ (reports_discard (reports_ask srv _)).bind fun _ ↦
    (reports_discard (reports_ask srv _)).bind fun _ ↦ (keeps_pure _).reports

theorem keeps_create (p : SavePoint) : link.Keeps (p.create (recorded srv) a) :=
  keeps_runIn srv a _ _ (reports_discard (reports_ask srv _))

theorem keeps_release (p : SavePoint) : link.Keeps (p.release (recorded srv) a) :=
  keeps_runIn srv a _ _ (reports_flag srv _)

theorem keeps_finish (t : Transaction) (commit : Bool) :
    link.Keeps (t.finish (recorded srv) a commit) :=
  keeps_runIn srv a _ _ (reports_flag srv _)

end View

end MariaClient
