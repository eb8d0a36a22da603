import MariaClient.Proofs.Session.Homes

/-!
# Settings of clients

A client begins with automatic commits and with the schema of its account, and only requests that
succeed change this.  `History.settings` reads the settings of the newest client off its history.
A session is in step with its client (`Link.InStep`) if these are the settings that it has
recorded.  Every new client is brought into step, whatever the client before it had come to
(`newClient_settings`), and `Workspace.client_settings` says that sessions never get out of step.
-/

namespace MariaClient

/-- What a session sets again on each of its clients. -/
structure Settings where
  autoCommit : Bool
  schema : String
  deriving DecidableEq, Repr

/-- A request that is about settings. -/
def Request.ofSettings : Request → Bool
  | query sql => sql == Connection.autoCommitSql true || sql == Connection.autoCommitSql false
  | selectDb _ => true
  | _ => false

/-- The settings that a session has recorded. -/
def Session.settings (s : Session) : Settings where
  autoCommit := s.autoCommit
  schema := s.schema

namespace Settings

/-- The settings of a client that was just connected. -/
def initial (a : Account) : Settings where
  autoCommit := true
  schema := a.schema

/-- The settings after a request that succeeded. -/
def after (r : Request) (S : Settings) : Settings :=
  match r with
  | .query sql =>
    if sql = Connection.autoCommitSql true then { S with autoCommit := true }
    else if sql = Connection.autoCommitSql false then { S with autoCommit := false }
    else S
  | .selectDb schema => { S with schema }
  | _ => S

theorem after_of_not {r : Request} (hr : r.ofSettings = false) : after r = id := by
  funext S
  cases r with
  | query sql =>
    obtain ⟨hon, hoff⟩ : sql ≠ Connection.autoCommitSql true ∧
        sql ≠ Connection.autoCommitSql false := by
      simpa [Request.ofSettings] using hr
    simp [after, hon, hoff]
  | selectDb schema => cases hr
  | prepare sql => rfl
  | execute id params => rfl
  | closeStatement id => rfl
  | ping => rfl

@[simp] theorem after_autoCommitSql (on : Bool) (S : Settings) :
    after (.query (Connection.autoCommitSql on)) S = { S with autoCommit := on } := by
  cases on
  · rfl
  · rfl

@[simp] theorem after_selectDb (schema : String) (S : Settings) :
    after (.selectDb schema) S = { S with schema } := rfl

end Settings

/-- A statement whose first words are not those about settings. -/
theorem Request.ofSettings_append {first : String} (rest : String)
    (hfirst : ∀ on, ¬ first.toList <+: (Connection.autoCommitSql on).toList) :
    (query (first ++ rest)).ofSettings = false := by
  have hne (on : Bool) : first ++ rest ≠ Connection.autoCommitSql on := by
    intro h
    refine hfirst on ⟨rest.toList, ?_⟩
    rw [← String.toList_append, h]
  simp [ofSettings, hne]

/-- The settings of the newest client, if there is one and it is known how it is set.  A request
about settings that broke the client may have changed them or not. -/
def History.settings (a : Account) : History → Option Settings
  | .connected :: _ => some (.initial a)
  | .answered r none :: h => (settings a h).map (Settings.after r)
  | .answered r (some e) :: h =>
    if r.ofSettings && e.breaksConnection then none else settings a h
  | .closed :: _ => none
  | [] => none

theorem History.settings_answered_other {a : Account} {r : Request} (hr : r.ofSettings = false)
    (failure : Option Error) (h : History) :
    settings a (.answered r failure :: h) = settings a h := by
  cases failure with
  | none => simp [settings, Settings.after_of_not hr]
  | some e => simp [settings, hr]

variable {σ α β : Type} (srv : Server σ) (a : Account)

/-! ## Steps on a client -/

/-- A step on a client that, if it succeeds, has changed the settings as told. -/
def Gives (f : Settings → Settings) (x : Attempt (σ × History) α) : Prop :=
  ∀ ⦃t S v t'⦄, t.2.settings a = some S → x t = (.ok v, t') → t'.2.settings a = some (f S)

/-- A step on a client that changes the settings as told, or fails.  If a failure leaves the client
whole, it leaves the settings as they were. -/
structure Sets (f : Settings → Settings) (x : Attempt (σ × History) α) : Prop where
  done : Gives a f x
  refused : ∀ ⦃t S e t'⦄, t.2.settings a = some S → x t = (.error e, t') →
    e.breaksConnection = false → t'.2.settings a = some S

variable {a} {f g : Settings → Settings}

theorem Gives.bind {x : Attempt (σ × History) α} {y : α → Attempt (σ × History) β}
    (hx : Gives a f x) (hy : ∀ v, Gives a g (y v)) : Gives a (g ∘ f) (x >>= y) := by
  intro t S v t' hS h
  obtain ⟨u, t₁, hxt, hyt⟩ := Attempt.of_bind_ok h
  exact hy u (hx hS hxt) hyt

theorem Gives.pure (v : α) : Gives a id (Pure.pure v : Attempt (σ × History) α) := by
  intro t S v' t' hS h
  cases h
  exact hS

theorem Gives.congr {x : Attempt (σ × History) α} (hx : Gives a f x) (h : ∀ S, f S = g S) :
    Gives a g x := by
  rwa [← funext h]

theorem Gives.ite {c : Prop} [Decidable c] {x y : Attempt (σ × History) α} (hx : Gives a f x)
    (hy : Gives a g y) : Gives a (if c then f else g) (if c then x else y) := by
  by_cases h : c
  · rwa [if_pos h, if_pos h]
  · rwa [if_neg h, if_neg h]

theorem Gives.forM {y : β → Attempt (σ × History) Unit} (hy : ∀ b, Gives a id (y b))
    (bs : List β) : Gives a id (bs.forM y) := by
  induction bs with
  | nil => exact .pure ()
  | cons b bs ih => exact (hy b).bind fun _ ↦ ih

namespace Sets

theorem pure (v : α) : Sets a id (Pure.pure v : Attempt (σ × History) α) where
  done := .pure v
  refused _ _ _ _ _ h := by cases h

/-- A request changes the settings as it should exactly if it succeeds. -/
theorem ask (r : Request) : Sets a (Settings.after r) ((recorded srv).ask r) where
  done t S v t' hS h := by
    obtain ⟨s, hist⟩ := t
    have hS : hist.settings a = some S := hS
    rw [recorded_ask] at h
    obtain ⟨hv, rfl⟩ := Prod.mk.inj h
    simp [hv, failure?, History.settings, hS]
  refused t S e t' hS h he := by
    obtain ⟨s, hist⟩ := t
    have hS : hist.settings a = some S := hS
    rw [recorded_ask] at h
    obtain ⟨hv, rfl⟩ := Prod.mk.inj h
    simp [hv, failure?, History.settings, hS, he]

theorem ask_other {r : Request} (hr : r.ofSettings = false) :
    Sets a id ((recorded srv).ask r) := by
  have hask := Sets.ask (a := a) srv r
  rwa [Settings.after_of_not hr] at hask

/-- A change of settings may follow steps that leave them alone. -/
theorem bind {x : Attempt (σ × History) α} {y : α → Attempt (σ × History) β} (hx : Sets a id x)
    (hy : ∀ v, Sets a f (y v)) : Sets a f (x >>= y) where
  done := hx.done.bind fun v ↦ (hy v).done
  refused t S e t' hS h he := by
    rcases hr : x t with ⟨e' | v, t₁⟩
    · rw [Attempt.bind_apply_error hr] at h
      cases h
      exact hx.refused hS hr he
    · rw [Attempt.bind_apply_ok hr] at h
      exact (hy v).refused (hx.done hS hr) h he

/-- What a change of settings gives may be turned into something else. -/
theorem map {x : Attempt (σ × History) α} (hx : Sets a f x) (value : α → β) :
    Sets a f (do return value (← x)) where
  done := hx.done.bind fun v ↦ .pure (value v)
  refused t S e t' hS h he := by
    rcases hr : x t with ⟨e' | v, t₁⟩
    · rw [Attempt.bind_apply_error hr] at h
      cases h
      exact hx.refused hS hr he
    · rw [Attempt.bind_apply_ok hr] at h
      cases h

theorem discard {x : Attempt (σ × History) α} (hx : Sets a f x) : Sets a f (discard x) :=
  hx.map fun _ ↦ ()

end Sets

/-! ## New clients -/

/-- The settings that a session gives to a client with the settings `S`. -/
def Session.impose (s : Session) (S : Settings) : Settings where
  autoCommit := S.autoCommit && s.autoCommit
  schema := if s.schema = "" then S.schema else s.schema

/-- A client that a session has prepared has the settings of the session. -/
theorem gives_prepareClient (s : Session) :
    Gives a s.impose (Connection.prepareClient (recorded srv) a s) := by
  have hcommit := (Sets.ask srv (a := a) (.query (Connection.autoCommitSql false))).discard.done
  have hselect := (Sets.ask srv (a := a) (.selectDb s.schema)).done
  have hoption (o : String × String) :
      Gives a id (discard ((recorded srv).ask (.query ("SET OPTION " ++ o.1 ++ "=" ++ o.2)))) := by
    refine (Sets.ask_other srv ?_).discard.done
    rw [String.append_assoc, String.append_assoc]
    exact Request.ofSettings_append _ (by decide)
  have hoptions := Gives.forM hoption a.options
  have hschema := Gives.ite (c := s.schema ≠ "") (hselect.bind fun _ ↦ hoptions) hoptions
  have hprepared := Gives.ite (c := (!s.autoCommit) = true) (hcommit.bind fun _ ↦ hschema) hschema
  refine hprepared.congr fun S ↦ ?_
  cases hauto : s.autoCommit <;> by_cases hname : s.schema = "" <;>
    simp [Session.impose, hauto, hname]

/-- Whatever became of the clients before, a new client has the settings of its session. -/
theorem newClient_settings {s : Session} (hs : s.schema = "" → a.schema = "") {t t' : σ × History}
    {version : String} (h : Connection.newClient (recorded srv) a s t = (.ok version, t')) :
    t'.2.settings a = some s.settings := by
  obtain ⟨s₀, hist⟩ := t
  rw [View.newClient_apply] at h
  rcases hc : srv.connect a s₀ with ⟨e | v, s₁⟩
  · rw [recorded_connect_error hc] at h
    cases h
  · rw [recorded_connect_ok hc] at h
    dsimp only at h
    rcases hp : Connection.prepareClient (recorded srv) a s (s₁, .connected :: hist) with
      ⟨e | _, t₁⟩
    · rw [hp] at h
      cases h
    · rw [hp] at h
      cases h
      rw [gives_prepareClient srv s (S := .initial a) rfl hp]
      have himpose : s.impose (.initial a) = s.settings := by
        by_cases hname : s.schema = ""
        · simp [Session.impose, Session.settings, Settings.initial, hname, hs hname]
        · simp [Session.impose, Session.settings, Settings.initial, hname]
      rw [himpose]

/-! ## Ways through an operation -/

namespace Connection

variable (a)

section Run

variable {neutral : Option α} {x : Nat → Attempt σ α} {l l' : Link σ} {r : Except Error α} {t : σ}

theorem run_of_open_error {e : Error} (ho : open? srv a l = (.error e, l')) :
    run srv a neutral x l = settle srv a neutral (.error e) l' := by
  rw [run, View.settled_apply, Attempt.bind_apply_error ho]

theorem run_of_open_ok (ho : open? srv a l = (.ok (), l'))
    (hx : x l'.session.generation l'.server = (r, t)) :
    run srv a neutral x l = settle srv a neutral r { l' with server := t } := by
  rw [run, View.settled_apply, Attempt.bind_apply_ok ho,
    Attempt.bind_apply_ok (x := Attempt.state) rfl, Link.onServer, hx]

end Run

section RunIn

variable {generation : Nat} {neutral : Option α} {x : Attempt σ α} {l : Link σ}
  {r : Except Error α} {t : σ}

theorem runIn_of_alive (ha : alive generation l = true) (hx : x l.server = (r, t)) :
    runIn srv a generation neutral x l = settle srv a neutral r { l with server := t } := by
  rw [runIn, View.settled_apply, within, if_pos ha, Link.onServer, hx]

theorem runIn_of_not_alive (ha : ¬ alive generation l = true) :
    runIn srv a generation neutral x l = settle srv a neutral (.error .notConnected) l := by
  rw [runIn, View.settled_apply, within, if_neg ha]

end RunIn

end Connection

/-! ## What a session has recorded

Only the two operations that change settings record other settings, and only if they succeed. -/

section Record

variable (a)

theorem open_settings (l : Link σ) :
    (Connection.open? srv a l).2.session.settings = l.session.settings := by
  unfold Connection.open?
  split
  · rfl
  · split <;> rfl

theorem disconnect_settings (l : Link σ) :
    (Connection.disconnect srv l).session.settings = l.session.settings := by
  unfold Connection.disconnect
  split <;> rfl

theorem settle_settings (neutral : Option α) (r : Except Error α) (l : Link σ) :
    (Connection.settle srv a neutral r l).2.session.settings = l.session.settings := by
  rcases r with e | v
  · dsimp only [Connection.settle]
    split
    · exact disconnect_settings srv _
    · rfl
  · rfl

theorem run_settings (neutral : Option α) (x : Nat → Attempt σ α) (l : Link σ) :
    (Connection.run srv a neutral x l).2.session.settings = l.session.settings := by
  rw [← open_settings srv a l]
  rcases ho : Connection.open? srv a l with ⟨e | _, l'⟩
  · rw [Connection.run_of_open_error srv a ho, settle_settings]
  · rcases hx : x l'.session.generation l'.server with ⟨r, t⟩
    rw [Connection.run_of_open_ok srv a ho hx, settle_settings]

theorem runIn_settings (generation : Nat) (neutral : Option α) (x : Attempt σ α) (l : Link σ) :
    (Connection.runIn srv a generation neutral x l).2.session.settings = l.session.settings := by
  by_cases ha : Connection.alive generation l = true
  · rcases hx : x l.server with ⟨r, t⟩
    rw [Connection.runIn_of_alive srv a ha hx, settle_settings]
  · rw [Connection.runIn_of_not_alive srv a ha, settle_settings]

theorem quietly_settings (generation : Nat) (r : Request) (l : Link σ) :
    (Connection.quietly srv generation r l).session.settings = l.session.settings := by
  rw [Connection.quietly]
  split <;> rfl

end Record

/-! ## Sessions in step -/

/-- A client of the session has the settings that the session has recorded, and so will the next
one: a session without a schema leaves a client with that of the account. -/
structure Link.InStep (a : Account) (l : Link (σ × History)) : Prop where
  client : l.session.connected = true → l.server.2.settings a = some l.session.settings
  schema : l.session.schema = "" → a.schema = ""

namespace Link.InStep

variable {l l' : Link (σ × History)}

/-- A session with the same record is in step if its client is. -/
theorem of_record (hl : l.InStep a) (hrecord : l'.session.settings = l.session.settings)
    (hclient : l'.session.connected = true → l'.server.2.settings a = some l.session.settings) :
    l'.InStep a where
  client hc := hrecord ▸ hclient hc
  schema hname := hl.schema ((congrArg Settings.schema hrecord).symm.trans hname)

theorem opened (hl : l.InStep a) : (Connection.open? (recorded srv) a l).2.InStep a := by
  refine hl.of_record (open_settings _ a l) ?_
  unfold Connection.open?
  by_cases hc : l.session.connected = true
  · rw [if_pos hc]
    exact hl.client
  · rw [if_neg hc]
    rcases hn : Connection.newClient (recorded srv) a l.session l.server with ⟨e | version, t⟩
    · exact fun h ↦ absurd h hc
    · exact fun _ ↦ newClient_settings srv hl.schema hn

theorem disconnect (hl : l.InStep a) : (Connection.disconnect (recorded srv) l).InStep a := by
  refine hl.of_record (disconnect_settings _ l) ?_
  unfold Connection.disconnect
  split
  · exact nofun
  · exact hl.client

end Link.InStep

/-- A client that is left after an error was settled is whole, and the error did not touch it. -/
theorem settle_error_connected {neutral : Option α} {e : Error} {l : Link σ}
    (h : (Connection.settle srv a neutral (.error e) l).2.session.connected = true) :
    e.breaksConnection = false ∧ l.session.connected = true ∧
      (Connection.settle srv a neutral (.error e) l).2.server = l.server := by
  dsimp only [Connection.settle] at h ⊢
  cases he : e.breaksConnection with
  | true =>
    rw [he, if_pos rfl, Connection.disconnect] at h
    split at h
    · cases h
    next hc => exact absurd h hc
  | false =>
    rw [he] at h
    exact ⟨rfl, h, rfl⟩

/-- What the caller of an operation sees of the outcome of its steps. -/
def Connection.shown (a : Account) (neutral : Option α) : Except Error α → Except Error α
  | .ok v => .ok v
  | .error e => visible a neutral e

theorem settle_fst (neutral : Option α) (r : Except Error α) (l : Link σ) :
    (Connection.settle srv a neutral r l).1 = Connection.shown a neutral r := by
  cases r <;> rfl

/-- A caller who is told of a change is not told so of an error. -/
theorem Connection.shown_error_ne (e : Error) : shown a (some false) (.error e) ≠ .ok true := by
  simp only [shown, visible]
  split <;> simp

section Runs

variable {l : Link (σ × History)}

/-- The client that an operation leaves has changed its settings as told if the operation
succeeded, whatever its caller is shown, and otherwise it has the settings that it had. -/
theorem run_client (neutral : Option α) {x : Nat → Attempt (σ × History) α}
    (hx : ∀ g, Sets a f (x g)) (hl : l.InStep a) :
    ∃ r, (Connection.run (recorded srv) a neutral x l).1 = Connection.shown a neutral r ∧
      (∀ v, r = .ok v → ∃ g t t', x g t = (.ok v, t')) ∧
      ((Connection.run (recorded srv) a neutral x l).2.session.connected = true →
        (Connection.run (recorded srv) a neutral x l).2.server.2.settings a =
          some (if r.isOk then f l.session.settings else l.session.settings)) := by
  have hrecord := open_settings (recorded srv) a l
  have hconnected := View.open_connected (recorded srv) a l
  have hopened := hl.opened srv
  rcases ho : Connection.open? (recorded srv) a l with ⟨e | _, l'⟩
  · rw [ho] at hrecord hopened
    rw [Connection.run_of_open_error _ a ho]
    refine ⟨.error e, settle_fst _ _ _ _, nofun, fun hc ↦ ?_⟩
    obtain ⟨-, hc', hserver⟩ := settle_error_connected _ hc
    rw [hserver, hopened.client hc', hrecord]
    rfl
  · rw [ho] at hrecord hconnected hopened
    have hclient := hopened.client hconnected
    rw [hrecord] at hclient
    rcases hr : x l'.session.generation l'.server with ⟨e | v, t⟩
    · rw [Connection.run_of_open_ok _ a ho hr]
      refine ⟨.error e, settle_fst _ _ _ _, nofun, fun hc ↦ ?_⟩
      obtain ⟨he, -, hserver⟩ := settle_error_connected _ hc
      rw [hserver]
      exact (hx _).refused hclient hr he
    · rw [Connection.run_of_open_ok _ a ho hr]
      refine ⟨.ok v, settle_fst _ _ _ _, ?_, fun _ ↦ (hx _).done hclient hr⟩
      intro v' hv
      cases hv
      exact ⟨_, _, _, hr⟩

/-- A client that was there stays, with the settings changed as told, if the caller is told of the
change.  What the session had recorded does not matter. -/
theorem run_client_done {x : Nat → Attempt (σ × History) Bool} (hx : ∀ g, Sets a f (x g))
    {S : Settings} {l' : Link (σ × History)} (hc : l.session.connected = true)
    (hS : l.server.2.settings a = some S)
    (h : Connection.run (recorded srv) a (some false) x l = (.ok true, l')) :
    l'.session.connected = true ∧ l'.server.2.settings a = some (f S) := by
  have ho : Connection.open? (recorded srv) a l = (.ok (), l) := if_pos hc
  rcases hr : x l.session.generation l.server with ⟨e | v, t⟩
  · rw [Connection.run_of_open_ok _ a ho hr] at h
    have hshown := settle_fst (recorded srv) (a := a) (some false) (.error e) { l with server := t }
    rw [h] at hshown
    exact absurd hshown.symm (Connection.shown_error_ne e)
  · rw [Connection.run_of_open_ok _ a ho hr] at h
    cases h
    exact ⟨hc, (hx _).done hS hr⟩

end Runs

end MariaClient
