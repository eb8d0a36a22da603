import MariaClient.Proofs.Session.Requests

/-!
# Homes of statements and transactions

A statement is at home with the client that was asked to prepare it, a transaction with the client
that was asked to begin it, and a save point where its transaction is.  They may outlive that
client by any number of others, which clones of the connection may have connected, and never ask
one of those: `Tracked.asked_at_home`.
-/

namespace MariaClient

open History

variable {σ α : Type} (srv : Server σ) (a : Account)

/-! ## Entities and what they ask -/

namespace Entity

/-- The number of the statement or transaction that an entity is part of. -/
def root (number : Nat) : Entity → Nat
  | .savePoint owner _ => owner
  | _ => number

/-- The requests that an entity makes. -/
inductive Asks : Entity → Request → Prop
  | execute (s : Statement) : Asks (.statement s) (.execute s.id s.params)
  | close (s : Statement) : Asks (.statement s) (.closeStatement s.id)
  | finish (t : Transaction) (commit : Bool) :
    Asks (.transaction t) (.query (Transaction.endSql commit))
  | save (t : Transaction) : Asks (.transaction t) (.query t.counted.lastSavePoint.createSql)
  | release (owner : Nat) (p : SavePoint) : Asks (.savePoint owner p) (.query p.releaseSql)
  | rollBack (owner : Nat) (p : SavePoint) : Asks (.savePoint owner p) (.query p.rollbackSql)

theorem asks_farewell (e : Entity) : e.Asks e.farewell := by
  cases e with
  | statement s => exact .close s
  | transaction t => exact .finish t false
  | savePoint owner p => exact .rollBack owner p

/-- Each of the later entities is of the root and the generation of an earlier one. -/
def Descend (es es' : List (Nat × Entity)) : Prop :=
  ∀ n' e', (n', e') ∈ es' →
    ∃ n e, (n, e) ∈ es ∧ e.root n = e'.root n' ∧ e.generation = e'.generation

section Descend

variable {es es' : List (Nat × Entity)} {number : Nat} {e old : Entity}

theorem descend_of_subset (h : ∀ x ∈ es', x ∈ es) : Descend es es' := by
  intro n e hmem
  exact ⟨n, e, h _ hmem, rfl, rfl⟩

theorem descend_filter (p : Nat × Entity → Bool) : Descend es (es.filter p) :=
  descend_of_subset fun _ hx ↦ (List.mem_filter.1 hx).1

/-- Something may take the place of an entity. -/
theorem descend_replace (hold : (number, old) ∈ es) (hroot : old.root number = e.root number)
    (hgeneration : old.generation = e.generation) :
    Descend es (es.map fun (n, old) ↦ (n, if n = number then e else old)) := by
  intro n' e' hmem
  obtain ⟨⟨n, found⟩, hfound, heq⟩ := List.mem_map.1 hmem
  obtain ⟨rfl, rfl⟩ := Prod.mk.inj heq
  by_cases hn : n = number
  · subst hn
    rw [if_pos rfl]
    exact ⟨n, old, hold, hroot, hgeneration⟩
  · rw [if_neg hn]
    exact ⟨n, found, hfound, rfl, rfl⟩

/-- Something may be added to an entity. -/
theorem descend_cons (h : Descend es es') (hold : (number, old) ∈ es) {n : Nat}
    (hroot : old.root number = e.root n) (hgeneration : old.generation = e.generation) :
    Descend es ((n, e) :: es') := by
  intro n' e' hmem
  rcases List.mem_cons.1 hmem with heq | hmem
  · obtain ⟨rfl, rfl⟩ := Prod.mk.inj heq
    exact ⟨number, old, hold, hroot, hgeneration⟩
  · exact h n' e' hmem

end Descend

end Entity

namespace Workspace

variable {w : Workspace σ} {number : Nat}

theorem mem_of_lookup {es : List (Nat × Entity)} {e : Entity} (h : es.lookup number = some e) :
    (number, e) ∈ es := by
  induction es with
  | nil => cases h
  | cons x es ih =>
    obtain ⟨n, found⟩ := x
    by_cases hn : number = n
    · subst hn
      rw [List.lookup_cons_self] at h
      cases h
      exact List.mem_cons_self
    · rw [List.lookup_cons, beq_false_of_ne hn] at h
      exact List.mem_cons_of_mem _ (ih h)

theorem onLink_apply {x : Attempt (Link σ) α} {r : Except Error α} {l : Link σ}
    (h : x w.link = (r, l)) : onLink x w = (r, { w with link := l }) := by
  rw [onLink, h]

theorem mem_of_statement? {s : Statement} (h : w.statement? number = some s) :
    (number, .statement s) ∈ w.entities := by
  unfold statement? at h
  split at h
  next hfind =>
    cases h
    exact mem_of_lookup hfind
  next => cases h

theorem mem_of_transaction? {t : Transaction} (h : w.transaction? number = some t) :
    (number, .transaction t) ∈ w.entities := by
  unfold transaction? at h
  split at h
  next hfind =>
    cases h
    exact mem_of_lookup hfind
  next => cases h

theorem mem_of_savePoint? {p : SavePoint} (h : w.savePoint? number = some p) :
    ∃ owner, (number, .savePoint owner p) ∈ w.entities := by
  unfold savePoint? at h
  split at h
  next owner _ hfind =>
    cases h
    exact ⟨owner, mem_of_lookup hfind⟩
  next => cases h

end Workspace

/-! ## Clients that were asked last -/

/-- A step that ran gave what it gives in the generation of the client that is left. -/
theorem Connection.run_ok {x : Nat → Attempt (σ × History) α} {l l' : Link (σ × History)} {v : α}
    (h : Connection.run (recorded srv) a none x l = (.ok v, l')) :
    ∃ s, x l'.session.generation s = (.ok v, l'.server) := by
  rcases ho : Connection.open? (recorded srv) a l with ⟨e | _, l₁⟩
  · rw [Connection.run, View.settled_apply, Attempt.bind_apply_error ho] at h
    cases h
  · rw [Connection.run, View.settled_apply, Attempt.bind_apply_ok ho] at h
    refine ⟨l₁.server, ?_⟩
    rcases hx : x l₁.session.generation l₁.server with ⟨e | v', s⟩
    · have he : Link.onServer (x l₁.session.generation) l₁ =
          (.error e, { l₁ with server := s }) := by
        rw [Link.onServer, hx]
      rw [Attempt.bind_apply_ok (x := Attempt.state) rfl, he] at h
      cases h
    · have hv : Link.onServer (x l₁.session.generation) l₁ =
          (.ok v', { l₁ with server := s }) := by
        rw [Link.onServer, hx]
      rw [Attempt.bind_apply_ok (x := Attempt.state) rfl, hv] at h
      cases h
      exact hx

/-- The newest request of a history was made of the newest client. -/
def History.EndsWith (r : Request) (h : History) : Prop :=
  ∃ older, h.requests = (h.clients, r) :: older

theorem endsWith_ask (r : Request) (s : σ × History) :
    EndsWith r ((recorded srv).ask r s).2.2 :=
  ⟨s.2.requests, rfl⟩

theorem Statement.prepare_ok {sql : String} {l l' : Link (σ × History)} {s : Statement}
    (h : prepare (recorded srv) a sql l = (.ok s, l')) :
    s.generation = l'.session.generation ∧ EndsWith (.prepare sql) l'.server.2 := by
  obtain ⟨before, hrun⟩ := Connection.run_ok srv a h
  obtain ⟨p, after, hask, hpure⟩ := Attempt.of_bind_ok hrun
  cases hpure
  refine ⟨rfl, ?_⟩
  have hends := endsWith_ask srv (.prepare sql) before
  rwa [hask] at hends

theorem Transaction.start_ok {isolation : IsolationLevel} {snapshot : Bool}
    {l l' : Link (σ × History)} {tr : Transaction}
    (h : start (recorded srv) a isolation snapshot l = (.ok tr, l')) :
    tr.generation = l'.session.generation ∧
      EndsWith (.query (startSql snapshot)) l'.server.2 := by
  obtain ⟨before, hrun⟩ := Connection.run_ok srv a h
  obtain ⟨_, isolated, -, hrest⟩ := Attempt.of_bind_ok hrun
  obtain ⟨_, after, hdiscard, hpure⟩ := Attempt.of_bind_ok hrest
  obtain ⟨_, asked, hask, hdone⟩ := Attempt.of_bind_ok hdiscard
  cases hdone
  cases hpure
  refine ⟨rfl, ?_⟩
  have hends := endsWith_ask srv (.query (startSql snapshot)) isolated
  rwa [hask] at hends

/-! ## Values of statements -/

/-- What gives its value without a step leaves the state as it is. -/
theorem Attempt.bind_state {τ β : Type} {x : Attempt τ α} {f : α → Attempt τ β}
    (hf : ∀ v s, (f v s).2 = s) {s : τ} : ((x >>= f) s).2 = (x s).2 := by
  rcases hx : x s with ⟨e | v, s'⟩
  · rw [bind_apply_error hx]
  · rw [bind_apply_ok hx, hf]

namespace Statement

variable (s : Statement) (l : Link σ)

/-- A statement that is executed for its count, its number or its rows is executed once. -/
theorem execute_state : (s.execute srv a l).2 = (s.run srv a l).2 :=
  Attempt.bind_state fun
    | some (.done _), _ => rfl
    | some (.rows ..), _ => rfl
    | none, _ => rfl

theorem insert_state : (s.insert srv a l).2 = (s.run srv a l).2 :=
  Attempt.bind_state fun
    | some (.done _), _ => rfl
    | some (.rows ..), _ => rfl
    | none, _ => rfl

theorem query_state : (s.query srv a l).2 = (s.run srv a l).2 :=
  Attempt.bind_state fun
    | some (.done _), _ => rfl
    | some (.rows ..), _ => rfl
    | none, _ => rfl

end Statement

/-! ## Turns -/

/-- What a clone of a connection does while it holds the session.  A change of the schema or of
automatic commits takes the session more than once, and other clones may have it in between. -/
inductive Turn
  | perform (op : Operation)
  | selectSchema (schema : String)
  | recordSchema (schema : String)
  | sendAutoCommit (on : Bool)
  | recordAutoCommit (on : Bool)
  deriving DecidableEq, Repr

namespace Turn

/-- A turn on the session and on what is alive on it. -/
def take : Turn → Attempt (Workspace σ) Outcome
  | perform op => Workspace.perform srv a op
  | selectSchema schema => Workspace.onLink do
    return .flag (← Connection.selectSchema srv a schema)
  | recordSchema schema => Workspace.onLink do
    Attempt.update (Link.record fun s ↦ { s with schema })
    return .nothing
  | sendAutoCommit on => Workspace.onLink do
    return .flag (← Connection.sendAutoCommit srv a on)
  | recordAutoCommit on => Workspace.onLink do
    Attempt.update (Link.record fun s ↦ { s with autoCommit := on })
    return .nothing

/-- The number of the entity that a turn is about. -/
def target? : Turn → Option Nat
  | perform (.executeStatement number) => some number
  | perform (.insertStatement number) => some number
  | perform (.queryStatement number) => some number
  | perform (.finish number _) => some number
  | perform (.createSavePoint number) => some number
  | perform (.releaseSavePoint number) => some number
  | perform (.drop number) => some number
  | _ => none

/-- The request by which a turn makes a statement or begins a transaction. -/
def opener? : Turn → Option Request
  | perform (.prepare sql) => some (.prepare sql)
  | perform (.start _ snapshot) => some (.query (Transaction.startSql snapshot))
  | _ => none

/-- The number of what a turn made and the client that was asked for it last. -/
def home? (turn : Turn) (r : Except Error Outcome) (h : History) : Option (Nat × Nat) :=
  match turn.opener?, r, h.requests with
  | some opener, .ok (.created number), (client, request) :: _ =>
    if request = opener then some (number, client) else none
  | _, _, _ => none

end Turn

/-! ## Runs -/

/-- A workspace on a recorded server, with the clients at which statements and transactions are at
home. -/
structure Tracked (σ : Type) where
  workspace : Workspace (σ × History)
  homes : List (Nat × Nat) := []

namespace Tracked

/-- What happened to the clients of the session. -/
def history (t : Tracked σ) : History :=
  t.workspace.link.server.2

/-- The workspace of an account before its first client. -/
def start (s : σ) : Tracked σ :=
  { workspace := Workspace.start a (s, []) }

/-- What is left by a turn. -/
def step (t : Tracked σ) (turn : Turn) : Tracked σ :=
  let (r, workspace) := turn.take (recorded srv) a t.workspace
  { workspace
    homes := (turn.home? r workspace.link.server.2).toList ++ t.homes }

/-- What is left by turns that clones take one after the other. -/
def run (t : Tracked σ) (turns : List Turn) : Tracked σ :=
  turns.foldl (step srv a) t

/-- The requests that a turn may make, and of which client.  One that is about an entity makes
requests of this entity, or of the save points of this transaction, and makes them at home.
All others leave statements alone. -/
def MayAsk (t : Tracked σ) (turn : Turn) (client : Nat) (r : Request) : Prop :=
  match turn.target? with
  | some number => ∃ n e, (n, e) ∈ t.workspace.entities ∧
      (n = number ∨ Workspace.ownedBy number e = true) ∧ e.Asks r ∧
      t.homes.lookup (e.root n) = some client
  | none => r.ofStatement = false

/-- Everything alive is at home somewhere, and its generation is that of its home. -/
def Sound (t : Tracked σ) : Prop :=
  ∀ n e, (n, e) ∈ t.workspace.entities →
    e.root n < t.workspace.next ∧
      ∃ client, t.homes.lookup (e.root n) = some client ∧
        t.workspace.link.Knows e.generation client

end Tracked

namespace Workspace

/-- A workspace gets from one state to another by requests that pass a test, and makes nothing that
has no root. -/
structure Follows (Q : Nat → Request → Prop) (w w' : Workspace (σ × History)) : Prop where
  leads : Link.Leads Q w.link w'.link
  entities : Entity.Descend w.entities w'.entities
  next : w.next ≤ w'.next

variable {Q : Nat → Request → Prop} {w w' : Workspace (σ × History)}

theorem Follows.refl (w : Workspace (σ × History)) : Follows Q w w where
  leads := .refl w.link
  entities := Entity.descend_of_subset fun _ hx ↦ hx
  next := Nat.le_refl w.next

theorem Follows.onLink {x : Attempt (Link (σ × History)) α}
    (hx : Link.Leads Q w.link (x w.link).2) :
    Follows Q w (Workspace.onLink x w).2 where
  leads := hx
  entities := Entity.descend_of_subset fun _ hx ↦ hx
  next := Nat.le_refl w.next

end Workspace

namespace Tracked

open Workspace

variable {t : Tracked σ}

theorem Sound.follows {Q : Nat → Request → Prop} {w' : Workspace (σ × History)} (ht : t.Sound)
    (hw : Follows Q t.workspace w') : Sound { t with workspace := w' } := by
  intro n' e' hmem
  obtain ⟨n, e, he, hroot, hgeneration⟩ := hw.entities n' e' hmem
  obtain ⟨hlt, client, hhome, hknows⟩ := ht n e he
  rw [hroot] at hlt hhome
  rw [hgeneration] at hknows
  exact ⟨Nat.lt_of_lt_of_le hlt hw.next, client, hhome, hknows.of_later hw.leads.later⟩

/-! ## Operations on what is alive -/

section Targets

variable {turn : Turn} {number n : Nat} {e : Entity}

/-- An entity that a turn is about asks its home, whatever the session has been through. -/
theorem Sound.mayAsk (ht : t.Sound) (hturn : turn.target? = some number)
    (he : (n, e) ∈ t.workspace.entities) (hn : n = number ∨ ownedBy number e = true) :
    ∃ client, t.workspace.link.Knows e.generation client ∧
      ∀ r, e.Asks r → t.MayAsk turn client r := by
  obtain ⟨-, client, hhome, hknows⟩ := ht n e he
  refine ⟨client, hknows, ?_⟩
  intro r hr
  unfold MayAsk
  rw [hturn]
  exact ⟨n, e, he, hn, hr, hhome⟩

/-- A request to the client of a generation goes to the home of its entity. -/
theorem Sound.leads_runIn (ht : t.Sound) (hturn : turn.target? = some number)
    (he : (n, e) ∈ t.workspace.entities) (hn : n = number ∨ ownedBy number e = true)
    {l : Link (σ × History)} (hl : Link.Later t.workspace.link l) (neutral : Option α)
    {x : Attempt (σ × History) α} (hx : Talks e.Asks x) :
    Link.Leads (t.MayAsk turn) l
      (Connection.runIn (recorded srv) a e.generation neutral x l).2 := by
  obtain ⟨client, hknows, hask⟩ := ht.mayAsk hturn he hn
  refine (MariaClient.leads_runIn srv a (hknows.of_later hl) neutral hx).mono ?_
  rintro c r ⟨rfl, hr⟩
  exact hask r hr

/-- Clean-ups ask the homes of what is dropped. -/
theorem Sound.leads_cleanUps (ht : t.Sound) (hturn : turn.target? = some number)
    (p : Nat × Entity → Bool) (hp : ∀ n e, p (n, e) = true → n = number ∨ ownedBy number e = true) :
    Link.Leads (t.MayAsk turn) t.workspace.link
      ((t.workspace.entities.filter p).foldl (fun l (_, e) ↦ cleanUp (recorded srv) e l)
        t.workspace.link) := by
  have hrun (es : List (Nat × Entity)) : ∀ l, Link.Leads (t.MayAsk turn) t.workspace.link l →
      (∀ x ∈ es, x ∈ t.workspace.entities.filter p) →
      Link.Leads (t.MayAsk turn) t.workspace.link
        (es.foldl (fun l (_, e) ↦ cleanUp (recorded srv) e l) l) := by
    induction es with
    | nil => exact fun l hl _ ↦ hl
    | cons x es ih =>
      intro l hl hes
      obtain ⟨n, e⟩ := x
      obtain ⟨he, hpe⟩ := List.mem_filter.1 (hes _ List.mem_cons_self)
      obtain ⟨client, hknows, hask⟩ := ht.mayAsk hturn he (hp n e hpe)
      refine ih _ (hl.trans ?_) fun x hx ↦ hes x (List.mem_cons_of_mem _ hx)
      change Link.Leads _ l (cleanUp (recorded srv) e l)
      rw [cleanUp_eq_quietly]
      refine (leads_quietly srv (hknows.of_later hl.later) e.asks_farewell).mono ?_
      rintro c r ⟨rfl, hr⟩
      exact hask r hr
  exact hrun _ _ (.refl _) fun _ hx ↦ hx

theorem follows_setParam {Q : Nat → Request → Prop} {w : Workspace (σ × History)}
    (number index : Nat) (value : Param) : Follows Q w (setParam number index value w).2 := by
  unfold setParam
  split
  next s hs =>
    split
    next s' hs' =>
      have hgeneration : s.generation = s'.generation := by
        unfold Statement.set at hs'
        rcases hm : Bindings.modify s.params index value.bind with e | params
        · rw [hm] at hs'
          cases hs'
        · rw [hm] at hs'
          cases hs'
          rfl
      exact ⟨.refl _, Entity.descend_replace (mem_of_statement? hs) rfl hgeneration, Nat.le_refl _⟩
    next => exact .refl w
  next => exact .refl w

theorem follows_withStatement (ht : t.Sound) (hturn : turn.target? = some number)
    {x : Statement → Attempt (Link (σ × History)) Outcome}
    (hx : ∀ s l, (x s l).2 = (s.run (recorded srv) a l).2) :
    Follows (t.MayAsk turn) t.workspace (withStatement number x t.workspace).2 := by
  unfold withStatement
  split
  next s hs =>
    refine .onLink ?_
    rw [hx]
    exact ht.leads_runIn srv a hturn (mem_of_statement? hs) (.inl rfl) (.refl _) _
      ((Talks.ask srv (.execute s)).bind fun _ ↦ .pure _)
  next => exact .refl _

theorem follows_finish (ht : t.Sound) (commit : Bool)
    (hturn : turn.target? = some number) :
    Follows (t.MayAsk turn) t.workspace (finish (recorded srv) a number commit t.workspace).2 := by
  unfold finish
  split
  next tr htr =>
    have hclean := ht.leads_cleanUps srv hturn (fun (_, e) ↦ ownedBy number e) fun _ _ ↦ .inr
    refine ⟨?_, ?_, Nat.le_refl _⟩
    · refine hclean.trans ?_
      change Link.Leads _ _
        ((do return Outcome.flag (← tr.finish (recorded srv) a commit)) _).2
      rw [View.bind_pure_state]
      exact ht.leads_runIn srv a hturn (mem_of_transaction? htr) (.inl rfl) hclean.later _
        (.flag srv (.finish tr commit))
    · refine Entity.descend_of_subset fun x hx ↦ ?_
      exact (List.mem_filter.1 (List.mem_filter.1 hx).1).1
  next => exact .refl _

theorem follows_createSavePoint (ht : t.Sound) (hturn : turn.target? = some number) :
    Follows (t.MayAsk turn) t.workspace
      (createSavePoint (recorded srv) a number t.workspace).2 := by
  unfold createSavePoint
  split
  next tr htr =>
    have hmem := mem_of_transaction? htr
    have hcreate : Link.Leads (t.MayAsk turn) t.workspace.link
        (tr.counted.lastSavePoint.create (recorded srv) a t.workspace.link).2 :=
      ht.leads_runIn srv a hturn hmem (.inl rfl) (.refl _) none (Talks.ask srv (.save tr)).discard
    have hcounted : Entity.Descend t.workspace.entities
        (t.workspace.replace number (.transaction tr.counted)).entities :=
      Entity.descend_replace hmem rfl rfl
    rcases hr : tr.counted.lastSavePoint.create (recorded srv) a t.workspace.link with ⟨e | _, l'⟩
    · rw [hr] at hcreate
      rw [Attempt.bind_apply_error
        (onLink_apply (w := t.workspace.replace number (.transaction tr.counted)) hr)]
      exact ⟨hcreate, hcounted, Nat.le_refl _⟩
    · rw [hr] at hcreate
      rw [Attempt.bind_apply_ok
        (onLink_apply (w := t.workspace.replace number (.transaction tr.counted)) hr)]
      exact ⟨hcreate, Entity.descend_cons hcounted hmem rfl rfl, Nat.le_succ _⟩
  next => exact .refl _

theorem follows_releaseSavePoint (ht : t.Sound) (hturn : turn.target? = some number) :
    Follows (t.MayAsk turn) t.workspace
      (releaseSavePoint (recorded srv) a number t.workspace).2 := by
  unfold releaseSavePoint
  split
  next p hp =>
    obtain ⟨owner, hmem⟩ := mem_of_savePoint? hp
    refine ⟨?_, Entity.descend_filter _, Nat.le_refl _⟩
    change Link.Leads _ _ ((do return Outcome.flag (← p.release (recorded srv) a)) _).2
    rw [View.bind_pure_state]
    exact ht.leads_runIn srv a hturn hmem (.inl rfl) (.refl _) _ (.flag srv (.release owner p))
  next => exact .refl _

theorem follows_drop (ht : t.Sound) (hturn : turn.target? = some number) :
    Follows (t.MayAsk turn) t.workspace (dropEntity (recorded srv) number t.workspace) where
  leads := by
    refine ht.leads_cleanUps srv hturn (fun (n, e) ↦ n == number || ownedBy number e) ?_
    intro n e he
    rcases Bool.or_eq_true_iff.1 he with hn | ho
    · exact .inl (beq_iff_eq.1 hn)
    · exact .inr ho
  entities := Entity.descend_filter _
  next := Nat.le_refl _

theorem follows_plain {x : Attempt (Link (σ × History)) α} (hturn : turn.target? = none)
    (hx : Link.Plain x) (f : α → Outcome) :
    Follows (t.MayAsk turn) t.workspace (onLink (do return f (← x)) t.workspace).2 := by
  have hleads := hx.bind (fun v ↦ .pure (f v)) t.workspace.link
  refine .onLink (hleads.mono ?_)
  intro _ r hr
  unfold MayAsk
  rwa [hturn]

/-- A turn that makes nothing new asks what it may ask. -/
theorem Sound.follows_take (ht : t.Sound) (hturn : turn.opener? = none) :
    Follows (t.MayAsk turn) t.workspace (turn.take (recorded srv) a t.workspace).2 := by
  cases turn with
  | selectSchema schema => exact follows_plain rfl (Link.plain_selectSchema srv a schema) _
  | recordSchema schema =>
    exact follows_plain rfl (Link.plain_recordSchema schema) fun _ ↦ .nothing
  | sendAutoCommit on => exact follows_plain rfl (Link.plain_sendAutoCommit srv a on) _
  | recordAutoCommit on =>
    exact follows_plain rfl (Link.plain_recordAutoCommit on) fun _ ↦ .nothing
  | perform op =>
    cases op with
    | connect => exact follows_plain rfl (Link.plain_connect srv a) _
    | disconnect => exact ⟨.disconnect srv _, Entity.descend_of_subset fun _ ↦ id, Nat.le_refl _⟩
    | ping => exact follows_plain rfl (Link.plain_ping srv a) _
    | setSchema schema => exact follows_plain rfl (Link.plain_setSchema srv a schema) _
    | setAutoCommit on => exact follows_plain rfl (Link.plain_setAutoCommit srv a on) _
    | execute sql => exact follows_plain rfl (Link.plain_execute srv a sql) _
    | insert sql => exact follows_plain rfl (Link.plain_insert srv a sql) _
    | query sql => exact follows_plain rfl (Link.plain_query srv a sql) _
    | prepare sql => cases hturn
    | setParam number index value => exact follows_setParam number index value
    | executeStatement number =>
      refine follows_withStatement srv a ht rfl fun s l ↦ ?_
      rw [View.bind_pure_state]
      exact s.execute_state _ a l
    | insertStatement number =>
      refine follows_withStatement srv a ht rfl fun s l ↦ ?_
      rw [View.bind_pure_state]
      exact s.insert_state _ a l
    | queryStatement number =>
      refine follows_withStatement srv a ht rfl fun s l ↦ ?_
      rw [View.bind_pure_state]
      exact s.query_state _ a l
    | start isolation snapshot => cases hturn
    | finish number commit => exact follows_finish srv a ht commit rfl
    | createSavePoint number => exact follows_createSavePoint srv a ht rfl
    | releaseSavePoint number => exact follows_releaseSavePoint srv a ht rfl
    | drop number => exact follows_drop srv ht rfl

end Targets

/-! ## Turns that make something -/

section Made

variable {turn : Turn} {opener : Request} {x : Attempt (Link (σ × History)) α} {f : α → Entity}

/-- What is new is at home with the client that was asked for it. -/
theorem Sound.step_made (ht : t.Sound)
    (htake : turn.take (recorded srv) a = do add (f (← onLink x)))
    (hopener : turn.opener? = some opener) (hx : Link.Plain x) (hroot : ∀ v n, (f v).root n = n)
    (hok : ∀ {l v l'}, x l = (.ok v, l') →
      (f v).generation = l'.session.generation ∧ EndsWith opener l'.server.2) :
    (t.step srv a turn).Sound := by
  have hleads := hx t.workspace.link
  rcases hr : x t.workspace.link with ⟨e | v, l'⟩
  · have hstep : t.step srv a turn = { t with workspace := { t.workspace with link := l' } } := by
      have hlink : onLink x t.workspace = (.error e, { t.workspace with link := l' }) :=
        onLink_apply hr
      rw [step, htake, Attempt.bind_apply_error hlink]
      simp [Turn.home?, hopener]
    rw [hr] at hleads
    rw [hstep]
    exact ht.follows ⟨hleads, Entity.descend_of_subset fun _ ↦ id, Nat.le_refl _⟩
  · obtain ⟨hgeneration, older, hrequests⟩ := hok hr
    have hstep : t.step srv a turn =
        { workspace :=
            { link := l'
              entities := (t.workspace.next, f v) :: t.workspace.entities
              next := t.workspace.next + 1 }
          homes := (t.workspace.next, l'.server.2.clients) :: t.homes } := by
      have hlink : onLink x t.workspace = (.ok v, { t.workspace with link := l' }) :=
        onLink_apply hr
      rw [step, htake, Attempt.bind_apply_ok hlink]
      simp [Turn.home?, hopener, add, hrequests]
    rw [hr] at hleads
    rw [hstep]
    intro n e hmem
    rcases List.mem_cons.1 hmem with heq | hmem
    · obtain ⟨rfl, rfl⟩ := Prod.mk.inj heq
      rw [hroot]
      refine ⟨Nat.lt_succ_self _, l'.server.2.clients, List.lookup_cons_self, ?_⟩
      exact ⟨Nat.le_of_eq hgeneration, fun _ _ ↦ rfl⟩
    · obtain ⟨hlt, client, hhome, hknows⟩ := ht n e hmem
      refine ⟨Nat.lt_succ_of_lt hlt, client, ?_, hknows.of_later hleads.later⟩
      rwa [List.lookup_cons, beq_false_of_ne (Nat.ne_of_lt hlt)]

/-- Making something asks nothing that is of a statement. -/
theorem asked_made (htake : turn.take (recorded srv) a = do add (f (← onLink x)))
    (htarget : turn.target? = none) (hx : Link.Plain x) :
    Asked (t.MayAsk turn) t.history (t.step srv a turn).history := by
  have hhistory : (t.step srv a turn).history = (x t.workspace.link).2.server.2 := by
    rw [history, step, htake]
    rcases hr : x t.workspace.link with ⟨e | v, l'⟩
    · have hlink : onLink x t.workspace = (.error e, { t.workspace with link := l' }) :=
        onLink_apply hr
      rw [Attempt.bind_apply_error hlink]
    · have hlink : onLink x t.workspace = (.ok v, { t.workspace with link := l' }) :=
        onLink_apply hr
      rw [Attempt.bind_apply_ok hlink]
      rfl
  rw [hhistory]
  refine (hx t.workspace.link).asked.mono ?_
  intro _ r hr
  unfold MayAsk
  rwa [htarget]

end Made

/-! ## Runs of turns -/

theorem Sound.step (ht : t.Sound) (turn : Turn) : (t.step srv a turn).Sound := by
  rcases hopener : turn.opener? with _ | opener
  · have hfollows := ht.follows_take srv a hopener
    have hstep : t.step srv a turn =
        { t with workspace := (turn.take (recorded srv) a t.workspace).2 } := by
      simp [Tracked.step, Turn.home?, hopener]
    rw [hstep]
    exact ht.follows hfollows
  · cases turn with
    | perform op =>
      cases op with
      | prepare sql =>
        exact ht.step_made srv a rfl rfl (Link.plain_prepare srv a sql) (fun _ _ ↦ rfl)
          (Statement.prepare_ok srv a)
      | start isolation snapshot =>
        exact ht.step_made srv a rfl rfl (Link.plain_start srv a isolation snapshot)
          (fun _ _ ↦ rfl) (Transaction.start_ok srv a)
      | _ => cases hopener
    | _ => cases hopener

theorem Sound.asked_step (ht : t.Sound) (turn : Turn) :
    Asked (t.MayAsk turn) t.history (t.step srv a turn).history := by
  rcases hopener : turn.opener? with _ | opener
  · exact (ht.follows_take srv a hopener).leads.asked
  · cases turn with
    | perform op =>
      cases op with
      | prepare sql => exact asked_made srv a rfl rfl (Link.plain_prepare srv a sql)
      | start isolation snapshot =>
        exact asked_made srv a rfl rfl (Link.plain_start srv a isolation snapshot)
      | _ => cases hopener
    | _ => cases hopener

theorem Sound.run (ht : t.Sound) (turns : List Turn) : (t.run srv a turns).Sound := by
  induction turns generalizing t with
  | nil => exact ht
  | cons turn turns ih => exact ih (ht.step srv a turn)

/-- After any turns that clones of a connection took, whichever clients were connected, ended or
lost on the way, the next turn makes requests of a statement only if it is about this statement,
and makes them of the client that was asked to prepare it; and what it asks for a transaction or for
one of its save points it asks of the client that was asked to begin the transaction. -/
theorem asked_at_home (turns : List Turn) (turn : Turn) (s : σ) :
    Asked (MayAsk ((start a s).run srv a turns) turn) ((start a s).run srv a turns).history
      (((start a s).run srv a turns).step srv a turn).history := by
  have hstart : (start a s).Sound := by
    intro n e hmem
    cases hmem
  exact (hstart.run srv a turns).asked_step srv a turn

end Tracked

end MariaClient
