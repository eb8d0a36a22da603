import MariaClient.Proofs.Session.Restoration

/-!
# Settings that clones change at the same time

Clones of a connection share its session and take turns with it.  A call that changes a setting
takes several turns: it looks whether there is anything to do, asks the client, and records what
the client has done.  Other calls may have their turns in between, so the call that asks last need
not be the one that records last: `Clones.settings_agree_iff`.
-/

namespace MariaClient

/-- A call that changes a setting. -/
inductive Setter
  | schema (name : String)
  | autoCommit (on : Bool)
  deriving DecidableEq, Repr

/-- What a call will do when it has its next turn. -/
inductive Stage
  | look
  | ask
  | record
  | returned (r : Except Error Bool)

/-- The call has told its caller that the setting was changed. -/
def Stage.succeeded : Stage → Bool
  | returned (.ok true) => true
  | _ => false

/-- The call has told its caller something else. -/
def Stage.failed : Stage → Bool
  | returned (.ok true) => false
  | returned _ => true
  | _ => false

namespace Setter

/-- The effect of a call on the settings of a client. -/
def effect : Setter → Settings → Settings
  | schema name, S => { S with schema := name }
  | autoCommit on, S => { S with autoCommit := on }

/-- The effect of calls, of which the newest comes first. -/
def effects (setters : List Setter) (S : Settings) : Settings :=
  setters.foldr effect S

/-- What a call does to the record of a session. -/
def record : Setter → Session → Session
  | schema name, s => { s with schema := name }
  | autoCommit on, s => { s with autoCommit := on }

/-- Only automatic commits are looked at before they are changed. -/
def first : Setter → Stage
  | schema _ => .ask
  | autoCommit _ => .look

/-- A session in which there is nothing to do for a call. -/
def idle : Setter → Session → Bool
  | schema _, _ => false
  | autoCommit on, s => s.autoCommit == on

section Turns

variable {σ : Type} (srv : Server σ) (a : Account)

/-- A call by the only user of a session. -/
def call : Setter → Attempt (Link σ) Bool
  | schema name => Connection.setSchema srv a name
  | autoCommit on => Connection.setAutoCommit srv a on

/-- Asks the client. -/
def ask : Setter → Attempt (Link σ) Bool
  | schema name => Connection.selectSchema srv a name
  | autoCommit on => Connection.sendAutoCommit srv a on

/-- A turn of a call. -/
def turn (setter : Setter) (l : Link σ) : Stage → Stage × Link σ
  | .look => (if setter.idle l.session then .returned (.ok true) else .ask, l)
  | .ask =>
    match setter.ask srv a l with
    | (.ok true, l) => (.record, l)
    | (r, l) => (.returned r, l)
  | .record => (.returned (.ok true), l.record setter.record)
  | .returned r => (.returned r, l)

theorem call_of_idle {setter : Setter} {l : Link σ} (h : setter.idle l.session = true) :
    setter.call srv a l = (.ok true, l) := by
  cases setter with
  | schema name => cases h
  | autoCommit on => rw [call, Connection.setAutoCommit_apply, if_pos (beq_iff_eq.1 h)]

theorem call_of_not_idle {setter : Setter} {l : Link σ} (h : setter.idle l.session = false) :
    setter.call srv a l =
      match setter.ask srv a l with
      | (.ok true, l) => (.ok true, l.record setter.record)
      | (r, l) => (r, l) := by
  cases setter with
  | schema name =>
    rw [call, Connection.setSchema_eq_changing, Connection.changing_apply]
    rfl
  | autoCommit on =>
    rw [call, Connection.setAutoCommit_apply, if_neg (beq_eq_false_iff_ne.1 h),
      Connection.changing_apply]
    rfl

/-- Asking the client records no setting. -/
theorem ask_settings (setter : Setter) (l : Link σ) :
    (setter.ask srv a l).2.session.settings = l.session.settings := by
  cases setter with
  | schema name => exact run_settings srv a _ _ l
  | autoCommit on => exact run_settings srv a _ _ l

theorem record_settings (setter : Setter) (s : Session) :
    (setter.record s).settings = setter.effect s.settings := by
  cases setter <;> rfl

theorem record_connected (setter : Setter) (s : Session) :
    (setter.record s).connected = s.connected := by
  cases setter <;> rfl

/-- A client that did what it was asked stays, and has taken over the setting. -/
theorem ask_done {setter : Setter} {l l' : Link (σ × History)} {S : Settings}
    (hc : l.session.connected = true) (hS : l.server.2.settings a = some S)
    (h : setter.ask (recorded srv) a l = (.ok true, l')) :
    l'.session.connected = true ∧ l'.server.2.settings a = some (setter.effect S) := by
  cases setter with
  | schema name =>
    exact run_client_done srv (fun _ ↦ (Sets.ask srv (.selectDb name)).map fun _ ↦ true) hc hS h
  | autoCommit on =>
    have hsets : Sets a (Setter.autoCommit on).effect (do
        discard ((recorded srv).ask (.query (Connection.autoCommitSql on)))
        return true) := by
      have hask := (Sets.ask srv (a := a) (.query (Connection.autoCommitSql on))).discard
      rw [funext (Settings.after_autoCommitSql on)] at hask
      exact hask.map fun _ ↦ true
    exact run_client_done srv (fun _ ↦ hsets) hc hS h

end Turns

end Setter

/-- A session that calls of its clones are under way on.  It is noted which calls the client has
answered and which of them the session has written down, the newest first. -/
structure Clones (σ : Type) where
  link : Link σ
  calls : List (Setter × Stage)
  asked : List Setter := []
  written : List Setter := []

namespace Clones

variable {σ : Type} (srv : Server σ) (a : Account)

/-- Calls that have not had a turn. -/
def start (l : Link σ) (setters : List Setter) : Clones σ where
  link := l
  calls := setters.map fun setter ↦ (setter, setter.first)

/-- The call of the given number has a turn. -/
def step (c : Clones σ) (i : Nat) : Clones σ :=
  match c.calls[i]? with
  | none => c
  | some (setter, stage) =>
    let (stage', link) := setter.turn srv a c.link stage
    { link
      calls := c.calls.set i (setter, stage')
      asked := match stage, stage' with
        | .ask, .record => setter :: c.asked
        | _, _ => c.asked
      written := match stage with
        | .record => setter :: c.written
        | _ => c.written }

/-- The calls have their turns in the given order. -/
def run (c : Clones σ) (schedule : List Nat) : Clones σ :=
  schedule.foldl (step srv a) c

/-- The session after its client was ended and it got another one. -/
def reconnected (c : Clones σ) : Link σ :=
  (Connection.connect srv a (Connection.disconnect srv c.link)).2

/-- A call whose turns follow one another is a call by the only user of the session. -/
theorem run_alone (setter : Setter) (l : Link σ) :
    ((start l [setter]).run srv a [0, 0, 0]).link = (setter.call srv a l).2 ∧
      ((start l [setter]).run srv a [0, 0, 0]).calls =
        [(setter, .returned (setter.call srv a l).1)] := by
  cases hidle : setter.idle l.session with
  | true =>
    rw [Setter.call_of_idle srv a hidle]
    cases setter with
    | schema name => cases hidle
    | autoCommit on => simp [start, run, step, Setter.first, Setter.turn, hidle]
  | false =>
    rw [Setter.call_of_not_idle srv a hidle]
    rcases hask : setter.ask srv a l with ⟨e | _ | _, l'⟩ <;> cases setter <;>
      simp [start, run, step, Setter.first, Setter.turn, hidle, hask]

/-! ## Runs -/

section Runs

variable {a} {base : Settings} {c : Clones (σ × History)}

/-- The client has done what it was asked, in this order, and what was recorded was recorded in its
own order. -/
structure Sound (a : Account) (base : Settings) (c : Clones (σ × History)) : Prop where
  connected : c.link.session.connected = true
  client : c.link.server.2.settings a = some (Setter.effects c.asked base)
  record : c.link.session.settings = Setter.effects c.written base

/-- Some call did not succeed. -/
def Broken (c : Clones σ) : Prop :=
  ∃ (i : Nat) (call : Setter × Stage), c.calls[i]? = some call ∧ call.2.failed = true

/-- A call that did not succeed is not taken back. -/
theorem Broken.step {c : Clones σ} (hc : c.Broken) (i : Nat) : (c.step srv a i).Broken := by
  obtain ⟨j, call, hj, hfailed⟩ := hc
  unfold Clones.step
  split
  · exact ⟨j, call, hj, hfailed⟩
  next setter stage hi =>
    refine ⟨j, ?_⟩
    by_cases hij : i = j
    · subst hij
      rw [hi] at hj
      cases hj
      refine ⟨(setter, stage), ?_, hfailed⟩
      have hlt : i < c.calls.length := (List.getElem?_eq_some_iff.1 hi).1
      cases stage with
      | returned r => simp [Setter.turn, hlt]
      | _ => cases hfailed
    · exact ⟨call, by simp [List.getElem?_set_ne hij, hj], hfailed⟩

/-- One turn. -/
theorem Sound.step (hc : c.Sound a base) (i : Nat) :
    (c.step (recorded srv) a i).Sound a base ∨ (c.step (recorded srv) a i).Broken := by
  unfold Clones.step
  split
  · exact .inl hc
  next setter stage hi =>
    have hlt : i < c.calls.length := (List.getElem?_eq_some_iff.1 hi).1
    cases stage with
    | look => exact .inl ⟨hc.connected, hc.client, hc.record⟩
    | ask =>
      have hrecord := setter.ask_settings (recorded srv) a c.link
      rcases hask : setter.ask (recorded srv) a c.link with ⟨e | _ | _, l⟩
      · exact .inr ⟨i, (setter, .returned (.error e)), by simp [Setter.turn, hask, hlt], rfl⟩
      · exact .inr ⟨i, (setter, .returned (.ok false)), by simp [Setter.turn, hask, hlt], rfl⟩
      · obtain ⟨hconnected, hclient⟩ := Setter.ask_done srv a hc.connected hc.client hask
        rw [hask] at hrecord
        simp only [Setter.turn, hask]
        exact .inl ⟨hconnected, hclient, hrecord.trans hc.record⟩
    | record =>
      refine .inl ⟨?_, hc.client, ?_⟩
      · exact (setter.record_connected _).trans hc.connected
      · exact (setter.record_settings _).trans (congrArg setter.effect hc.record)
    | returned r => exact .inl ⟨hc.connected, hc.client, hc.record⟩

/-- Any number of turns in any order. -/
theorem Sound.run (hc : c.Sound a base) (schedule : List Nat) :
    (c.run (recorded srv) a schedule).Sound a base ∨ (c.run (recorded srv) a schedule).Broken := by
  have hbroken (schedule : List Nat) : ∀ {c : Clones (σ × History)}, c.Broken →
      (c.run (recorded srv) a schedule).Broken := by
    induction schedule with
    | nil => exact id
    | cons i schedule ih => exact fun hc ↦ ih (hc.step _ i)
  induction schedule generalizing c with
  | nil => exact .inl hc
  | cons i schedule ih =>
    rcases hc.step srv i with hc | hc
    · exact ih hc
    · exact .inr (hbroken schedule hc)

theorem not_broken {c : Clones σ} (hc : ∀ call ∈ c.calls, call.2.succeeded = true) :
    ¬ c.Broken := by
  rintro ⟨i, ⟨setter, stage⟩, hi, hfailed⟩
  have hsucceeded := hc _ (List.mem_of_getElem? hi)
  cases stage with
  | returned r =>
    rcases r with e | _ | _
    · cases hsucceeded
    · cases hsucceeded
    · cases hfailed
  | _ => cases hfailed

/-- The next client gets the settings that were recorded, whatever the one before it had. -/
theorem reconnected_settings (hname : c.link.session.schema = "" → a.schema = "")
    (hc : (c.reconnected (recorded srv) a).session.connected = true) :
    (c.reconnected (recorded srv) a).server.2.settings a = some c.link.session.settings := by
  have hrecord := disconnect_settings (recorded srv) c.link
  have hended : (Connection.disconnect (recorded srv) c.link).InStep a := by
    constructor
    · intro hconnected
      unfold Connection.disconnect at hconnected
      split at hconnected
      · cases hconnected
      next hnot => exact absurd hconnected hnot
    · exact fun h ↦ hname ((congrArg Settings.schema hrecord).symm.trans h)
  have hagain : (c.reconnected (recorded srv) a).InStep a :=
    Link.Steady.run srv _ (fun _ ↦ Sets.pure true) hended
  rw [hagain.client hc, ← hrecord]
  exact congrArg some (run_settings _ a _ _ _)

/-- Clones of a connection that has a client change settings by calls that all succeed, with their
turns in any order.  The session then agrees with its client exactly if the settings that were asked
for last are those that were recorded last; and unless the schema was given up, exactly then the
next client has the settings of this one. -/
theorem settings_agree_iff {l : Link (σ × History)} (hconnected : l.session.connected = true)
    (hl : l.InStep a) (setters : List Setter) (schedule : List Nat)
    (hdone : ∀ call ∈ ((start l setters).run (recorded srv) a schedule).calls,
      call.2.succeeded = true) :
    let c := (start l setters).run (recorded srv) a schedule
    let lastAsked := Setter.effects c.asked l.session.settings
    let lastRecorded := Setter.effects c.written l.session.settings
    (c.link.server.2.settings a = some c.link.session.settings ↔ lastAsked = lastRecorded) ∧
      ((c.link.session.schema = "" → a.schema = "") →
        (c.reconnected (recorded srv) a).session.connected = true →
          ((c.reconnected (recorded srv) a).server.2.settings a = c.link.server.2.settings a ↔
            lastAsked = lastRecorded)) := by
  intro c lastAsked lastRecorded
  have hstart : (start l setters).Sound a l.session.settings :=
    ⟨hconnected, hl.client hconnected, rfl⟩
  have hc : c.Sound a l.session.settings :=
    (hstart.run srv schedule).resolve_right (not_broken hdone)
  have hclient : c.link.server.2.settings a = some lastAsked := hc.client
  have hrecord : c.link.session.settings = lastRecorded := hc.record
  constructor
  · rw [hclient, hrecord, Option.some.injEq]
  · intro hname hagain
    rw [reconnected_settings srv hname hagain, hclient, hrecord, Option.some.injEq]
    exact eq_comm

end Runs

/-- A schema and automatic commits that are changed at the same time do not get in each other's
way. -/
theorem settings_agree_iff_schemaAndCommits :
    let a : Account := {}
    let l := (Connection.connect (recorded Script.server) a ⟨Session.start a, {}, []⟩).2
    let setters : List Setter := [.schema "a", .autoCommit false]
    let c := (start l setters).run (recorded Script.server) a [1, 0, 1, 0, 1]
    (∀ call ∈ c.calls, call.2.succeeded = true) ∧
      c.link.server.2.settings a = some c.link.session.settings ∧
      (c.reconnected (recorded Script.server) a).server.2.settings a =
        c.link.server.2.settings a := by
  intro a l setters c
  have hconnected : l.session.connected = true := by decide +kernel +zetaReduce
  have hl : l.InStep a := ⟨fun _ ↦ by decide +kernel +zetaReduce, fun _ ↦ rfl⟩
  have hdone : ∀ call ∈ c.calls, call.2.succeeded = true := by decide +kernel +zetaReduce
  have hlast : Setter.effects c.asked l.session.settings =
      Setter.effects c.written l.session.settings := by decide +kernel +zetaReduce
  have hagain : (c.reconnected (recorded Script.server) a).session.connected = true := by
    decide +kernel +zetaReduce
  have hagree := settings_agree_iff Script.server hconnected hl setters [1, 0, 1, 0, 1] hdone
  have hc : (start l setters).run (recorded Script.server) a [1, 0, 1, 0, 1] = c := rfl
  simp only [hc] at hagree
  clear_value c
  exact ⟨hdone, hagree.1.2 hlast, (hagree.2 (fun _ ↦ rfl) hagain).2 hlast⟩

/-- Two clones change the schema, and the one that asks first records last: the client goes on with
the schema of the other, which is neither recorded nor selected again.  And a schema that was given
up comes back with the next client. -/
theorem settings_lost :
    (let a : Account := {}
      let l := (Connection.connect (recorded Script.server) a ⟨Session.start a, {}, []⟩).2
      let c := (start l [.schema "a", .schema "b"]).run (recorded Script.server) a [0, 1, 1, 0]
      (∀ call ∈ c.calls, call.2.succeeded = true) ∧
        c.link.server.2.settings a = some { autoCommit := true, schema := "b" } ∧
        c.link.session.settings = { autoCommit := true, schema := "a" } ∧
        (c.reconnected (recorded Script.server) a).server.2.settings a =
          some { autoCommit := true, schema := "a" }) ∧
    (let a : Account := { schema := "x" }
      let l := (Connection.connect (recorded Script.server) a ⟨Session.start a, {}, []⟩).2
      let c := (start l [.schema ""]).run (recorded Script.server) a [0, 0]
      (∀ call ∈ c.calls, call.2.succeeded = true) ∧
        c.link.server.2.settings a = some { autoCommit := true, schema := "" } ∧
        (c.reconnected (recorded Script.server) a).server.2.settings a =
          some { autoCommit := true, schema := "x" }) := by
  decide +kernel

end Clones

end MariaClient
