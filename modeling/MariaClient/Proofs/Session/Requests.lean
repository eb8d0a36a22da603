import MariaClient.Proofs.Session.Reuse

/-!
# What clients are asked

A history counts the clients of a session, and so tells which of them got each request.  A step on
one client (`Talks`) asks no other.  A step on a session (`Link.Leads`) stays with the client that
there is, ends it, or goes on to a later generation; `leads_run` and `leads_within` say so for the
two ways in which operations reach a client.
-/

namespace MariaClient

/-- A request that only statements make. -/
def Request.ofStatement : Request → Bool
  | execute .. => true
  | closeStatement _ => true
  | _ => false

namespace History

/-- The number of clients that were connected, which is the number of the newest one. -/
def clients : History → Nat
  | .connected :: h => clients h + 1
  | _ :: h => clients h
  | [] => 0

/-- The requests with the number of the client that got each, the newest first. -/
def requests : History → List (Nat × Request)
  | .answered r _ :: h => (clients h, r) :: requests h
  | _ :: h => requests h
  | [] => []

section Events

variable (r : Request) (failure : Option Error) (h : History)

@[simp] theorem clients_connected : clients (.connected :: h) = clients h + 1 := rfl

@[simp] theorem clients_answered : clients (.answered r failure :: h) = clients h := rfl

@[simp] theorem clients_closed : clients (.closed :: h) = clients h := rfl

@[simp] theorem requests_connected : requests (.connected :: h) = requests h := rfl

@[simp] theorem requests_answered :
    requests (.answered r failure :: h) = (clients h, r) :: requests h := rfl

@[simp] theorem requests_closed : requests (.closed :: h) = requests h := rfl

end Events

/-- From a history to a later one, every request that is new passes a test. -/
def Asked (Q : Nat → Request → Prop) (h h' : History) : Prop :=
  ∃ new, requests h' = new ++ requests h ∧ ∀ client r, (client, r) ∈ new → Q client r

namespace Asked

variable {Q Q' : Nat → Request → Prop} {h h' h'' : History}

theorem of_eq (he : requests h' = requests h) : Asked Q h h' := by
  refine ⟨[], he, ?_⟩
  intro client r hr
  cases hr

theorem refl (h : History) : Asked Q h h := .of_eq rfl

theorem trans (hq : Asked Q h h') (hq' : Asked Q h' h'') : Asked Q h h'' := by
  obtain ⟨new, he, hnew⟩ := hq
  obtain ⟨new', he', hnew'⟩ := hq'
  refine ⟨new' ++ new, by rw [he', he, List.append_assoc], ?_⟩
  intro client r hr
  rcases List.mem_append.1 hr with hr | hr
  · exact hnew' client r hr
  · exact hnew client r hr

theorem mono (hq : Asked Q h h') (hQ : ∀ client r, Q client r → Q' client r) : Asked Q' h h' := by
  obtain ⟨new, he, hnew⟩ := hq
  exact ⟨new, he, fun client r hr ↦ hQ client r (hnew client r hr)⟩

end Asked

end History

open History

variable {σ α β : Type} (srv : Server σ) (a : Account)

/-! ## Steps on a client -/

/-- A step on a client that makes requests of a kind to this client and connects no other. -/
structure Talks (P : Request → Prop) (x : Attempt (σ × History) α) : Prop where
  clients : ∀ t, (x t).2.2.clients = t.2.clients
  asked : ∀ t, Asked (fun client r ↦ client = t.2.clients ∧ P r) t.2 (x t).2.2

namespace Talks

variable {P : Request → Prop}

theorem pure (v : α) : Talks P (Pure.pure v : Attempt (σ × History) α) where
  clients _ := rfl
  asked t := .refl t.2

theorem ask {r : Request} (hr : P r) : Talks P ((recorded srv).ask r) where
  clients _ := rfl
  asked t := by
    refine ⟨[(t.2.clients, r)], rfl, ?_⟩
    intro client r' hmem
    obtain ⟨rfl, rfl⟩ := Prod.mk.inj (List.mem_singleton.1 hmem)
    exact ⟨rfl, hr⟩

theorem bind {x : Attempt (σ × History) α} {f : α → Attempt (σ × History) β} (hx : Talks P x)
    (hf : ∀ v, Talks P (f v)) : Talks P (x >>= f) where
  clients t := by
    have hclients := hx.clients t
    rcases he : x t with ⟨e | v, t'⟩
    · rw [Attempt.bind_apply_error he]
      rwa [he] at hclients
    · rw [he] at hclients
      rw [Attempt.bind_apply_ok he, (hf v).clients t', hclients]
  asked t := by
    have hclients := hx.clients t
    have hasked := hx.asked t
    rcases he : x t with ⟨e | v, t'⟩
    · rw [Attempt.bind_apply_error he]
      rwa [he] at hasked
    · rw [he] at hclients hasked
      rw [Attempt.bind_apply_ok he]
      have hnext := (hf v).asked t'
      rw [hclients] at hnext
      exact hasked.trans hnext

theorem discard {x : Attempt (σ × History) α} (hx : Talks P x) : Talks P (discard x) :=
  hx.bind fun _ ↦ .pure ()

theorem ite {c : Prop} [Decidable c] {x y : Attempt (σ × History) α} (hx : Talks P x)
    (hy : Talks P y) : Talks P (if c then x else y) := by
  by_cases h : c
  · rwa [if_pos h]
  · rwa [if_neg h]

theorem forM {f : β → Attempt (σ × History) Unit} (hf : ∀ b, Talks P (f b)) (bs : List β) :
    Talks P (bs.forM f) := by
  induction bs with
  | nil => exact .pure ()
  | cons b bs ih => exact (hf b).bind fun _ ↦ ih

/-- A request whose answer only tells that it was done. -/
theorem flag {r : Request} (hr : P r) :
    Talks P (do
      Functor.discard ((recorded srv).ask r)
      return true) :=
  (ask srv hr).discard.bind fun _ ↦ .pure true

end Talks

/-- No statement takes part in bringing a new client into the state of a session. -/
theorem talks_prepareClient (s : Session) :
    Talks (fun r ↦ r.ofStatement = false) (Connection.prepareClient (recorded srv) a s) := by
  have hquery (sql : String) :
      Talks (fun r ↦ r.ofStatement = false) ((recorded srv).ask (.query sql)) := .ask srv rfl
  have hselect : Talks (fun r ↦ r.ofStatement = false) ((recorded srv).ask (.selectDb s.schema)) :=
    .ask srv rfl
  have hoptions := Talks.forM
    (fun o : String × String ↦ (hquery ("SET OPTION " ++ o.1 ++ "=" ++ o.2)).discard) a.options
  have hschema := Talks.ite (c := s.schema ≠ "") (hselect.bind fun _ ↦ hoptions) hoptions
  have hcommit := (hquery (Connection.autoCommitSql false)).discard
  exact .ite (hcommit.bind fun _ ↦ hschema) hschema

theorem newClient_asked (s : Session) (t : σ × History) :
    Asked (fun _ r ↦ r.ofStatement = false) t.2
      (Connection.newClient (recorded srv) a s t).2.2 := by
  obtain ⟨s₀, h⟩ := t
  rw [View.newClient_apply]
  rcases hc : srv.connect a s₀ with ⟨e | version, s₁⟩
  · rw [recorded_connect_error hc]
    exact .refl h
  · rw [recorded_connect_ok hc]
    have hprepared : Asked (fun _ r ↦ r.ofStatement = false) h
        (Connection.prepareClient (recorded srv) a s (s₁, .connected :: h)).2.2 :=
      Asked.trans (.of_eq rfl) (((talks_prepareClient srv a s).asked _).mono fun _ _ hr ↦ hr.2)
    dsimp only
    rcases hp : Connection.prepareClient (recorded srv) a s (s₁, .connected :: h) with
      ⟨e | _, s₂, h₂⟩
    · rw [hp] at hprepared
      exact hprepared.trans (.of_eq rfl)
    · rwa [hp] at hprepared

/-! ## Steps on a session -/

namespace Link

variable {Q Q' : Nat → Request → Prop} {l l' l'' : Link (σ × History)}

/-- The session is still of the same generation, and its client is the one it had if it has any;
or it is of a later generation. -/
def Later (l l' : Link (σ × History)) : Prop :=
  l.session.generation < l'.session.generation ∨
    l'.session.generation = l.session.generation ∧
      (l'.session.connected = true →
        l.session.connected = true ∧ l'.server.2.clients = l.server.2.clients)

theorem Later.refl (l : Link (σ × History)) : Later l l :=
  .inr ⟨rfl, fun hc ↦ ⟨hc, rfl⟩⟩

/-- A session gets from one state to another by requests that pass a test. -/
structure Leads (Q : Nat → Request → Prop) (l l' : Link (σ × History)) : Prop where
  later : Later l l'
  asked : Asked Q l.server.2 l'.server.2

namespace Leads

theorem refl (l : Link (σ × History)) : Leads Q l l where
  later := .refl l
  asked := .refl _

theorem trans (h : Leads Q l l') (h' : Leads Q l' l'') : Leads Q l l'' where
  later := by
    rcases h.later with hlt | ⟨heq, hsame⟩
    · rcases h'.later with hlt' | ⟨heq', -⟩
      · exact .inl (Nat.lt_trans hlt hlt')
      · exact .inl (heq' ▸ hlt)
    · rcases h'.later with hlt' | ⟨heq', hsame'⟩
      · exact .inl (heq ▸ hlt')
      · refine .inr ⟨heq'.trans heq, ?_⟩
        intro hc
        obtain ⟨hc', hclients'⟩ := hsame' hc
        obtain ⟨hc'', hclients⟩ := hsame hc'
        exact ⟨hc'', hclients'.trans hclients⟩
  asked := h.asked.trans h'.asked

theorem mono (h : Leads Q l l') (hQ : ∀ client r, Q client r → Q' client r) : Leads Q' l l' where
  later := h.later
  asked := h.asked.mono hQ

/-- The record of a session may change in all but its client. -/
theorem record {f : Session → Session} (hconnected : ∀ s, (f s).connected = s.connected)
    (hgeneration : ∀ s, (f s).generation = s.generation) (l : Link (σ × History)) :
    Leads Q l (l.record f) where
  later := by
    refine .inr ⟨hgeneration l.session, ?_⟩
    intro hc
    exact ⟨(hconnected l.session).symm.trans hc, rfl⟩
  asked := .refl _

theorem disconnect (l : Link (σ × History)) :
    Leads Q l (Connection.disconnect (recorded srv) l) := by
  unfold Connection.disconnect
  split
  · exact ⟨.inr ⟨rfl, nofun⟩, .of_eq rfl⟩
  · exact .refl l

theorem settle (neutral : Option α) (r : Except Error α) (l : Link (σ × History)) :
    Leads Q l (Connection.settle (recorded srv) a neutral r l).2 := by
  have hrecord {e : Option RecordedError} :
      Leads Q l (l.record fun s ↦ { s with lastError := e }) :=
    record (f := fun s ↦ { s with lastError := e }) (fun _ ↦ rfl) (fun _ ↦ rfl) l
  rcases r with e | v
  · dsimp only [Connection.settle]
    split
    · exact hrecord.trans (.disconnect srv _)
    · exact hrecord
  · exact hrecord

theorem settled (neutral : Option α) {x : Attempt (Link (σ × History)) α}
    (hx : Leads Q l (x l).2) : Leads Q l (Connection.settled (recorded srv) a neutral x l).2 := by
  rw [View.settled_apply]
  exact hx.trans (.settle srv a neutral _ _)

/-- A step on the client that a session has. -/
theorem onServer {P : Request → Prop} {x : Attempt (σ × History) α} (hx : Talks P x)
    (hQ : ∀ r, P r → Q l.server.2.clients r) : Leads Q l (Link.onServer x l).2 where
  later := .inr ⟨rfl, fun hc ↦ ⟨hc, hx.clients l.server⟩⟩
  asked := by
    refine (hx.asked l.server).mono ?_
    rintro client r ⟨rfl, hr⟩
    exact hQ r hr

theorem openClient (l : Link (σ × History)) :
    Leads (fun _ r ↦ r.ofStatement = false) l (Connection.open? (recorded srv) a l).2 := by
  have hasked := newClient_asked srv a l.session l.server
  unfold Connection.open?
  by_cases hc : l.session.connected = true
  · rw [if_pos hc]
    exact .refl l
  · rw [if_neg hc]
    rcases hn : Connection.newClient (recorded srv) a l.session l.server with ⟨e | version, t⟩
    · rw [hn] at hasked
      exact ⟨.inr ⟨rfl, fun h ↦ absurd h hc⟩, hasked⟩
    · rw [hn] at hasked
      exact ⟨.inl (Nat.lt_succ_self _), hasked⟩

end Leads

end Link

open Link

/-- An operation on whatever client there is asks it nothing that is of a statement. -/
theorem leads_run (neutral : Option α) {x : Nat → Attempt (σ × History) α}
    (hx : ∀ g, Talks (fun r ↦ r.ofStatement = false) (x g)) (l : Link (σ × History)) :
    Leads (fun _ r ↦ r.ofStatement = false) l
      (Connection.run (recorded srv) a neutral x l).2 := by
  refine Leads.settled srv a neutral ?_
  have hopen := Leads.openClient srv a l
  rcases ho : Connection.open? (recorded srv) a l with ⟨e | _, l'⟩
  · rw [ho] at hopen
    rwa [Attempt.bind_apply_error ho]
  · rw [ho] at hopen
    rw [Attempt.bind_apply_ok ho]
    exact hopen.trans (.onServer (hx _) fun _ ↦ id)

/-- The generation `g` was that of the client of the given number.  If the session still is of this
generation, it has that client or none. -/
def Link.Knows (l : Link (σ × History)) (g client : Nat) : Prop :=
  g ≤ l.session.generation ∧
    (l.session.connected = true → l.session.generation = g → l.server.2.clients = client)

theorem Link.Knows.of_later {l l' : Link (σ × History)} {g client : Nat} (h : l.Knows g client)
    (hlater : Later l l') : l'.Knows g client := by
  obtain ⟨hle, hclient⟩ := h
  rcases hlater with hlt | ⟨heq, hsame⟩
  · refine ⟨Nat.le_trans hle (Nat.le_of_lt hlt), ?_⟩
    intro _ hg
    omega
  · refine ⟨heq ▸ hle, ?_⟩
    intro hc hg
    obtain ⟨hc', hclients⟩ := hsame hc
    exact hclients.trans (hclient hc' (heq.symm.trans hg))

section Known

variable {P : Request → Prop} {l : Link (σ × History)} {g client : Nat}

theorem leads_within (hl : l.Knows g client) {x : Attempt (σ × History) α} (hx : Talks P x) :
    Leads (fun c r ↦ c = client ∧ P r) l (Connection.within g x l).2 := by
  unfold Connection.within
  by_cases ha : Connection.alive g l = true
  · rw [if_pos ha]
    obtain ⟨hc, hg⟩ := Bool.and_eq_true_iff.1 ha
    exact .onServer hx fun r hr ↦ ⟨hl.2 hc (beq_iff_eq.1 hg), hr⟩
  · rw [if_neg ha]
    exact .refl l

/-- An operation on the client of a generation asks only that client. -/
theorem leads_runIn (hl : l.Knows g client) (neutral : Option α) {x : Attempt (σ × History) α}
    (hx : Talks P x) :
    Leads (fun c r ↦ c = client ∧ P r) l
      (Connection.runIn (recorded srv) a g neutral x l).2 :=
  .settled srv a neutral (leads_within hl hx)

/-- A request whose outcome does not matter reaches only the client of its generation. -/
theorem leads_quietly (hl : l.Knows g client) {r : Request} (hr : P r) :
    Leads (fun c r ↦ c = client ∧ P r) l (Connection.quietly (recorded srv) g r l) := by
  have hwithin := leads_within hl (Talks.ask srv hr)
  unfold Connection.within at hwithin
  unfold Connection.quietly
  by_cases ha : Connection.alive g l = true
  · rw [if_pos ha] at hwithin ⊢
    exact hwithin
  · rw [if_neg ha]
    exact .refl l

end Known

/-! ## Operations that leave statements alone -/

namespace Link

/-- A step on a session that makes no request of a statement. -/
def Plain (x : Attempt (Link (σ × History)) α) : Prop :=
  ∀ l, Leads (fun _ r ↦ r.ofStatement = false) l (x l).2

namespace Plain

theorem pure (v : α) : Plain (Pure.pure v : Attempt (Link (σ × History)) α) :=
  fun l ↦ .refl l

theorem bind {x : Attempt (Link (σ × History)) α} {f : α → Attempt (Link (σ × History)) β}
    (hx : Plain x) (hf : ∀ v, Plain (f v)) : Plain (x >>= f) := by
  intro l
  have hleads := hx l
  rcases hr : x l with ⟨e | v, l'⟩
  · rw [hr] at hleads
    rwa [Attempt.bind_apply_error hr]
  · rw [hr] at hleads
    rw [Attempt.bind_apply_ok hr]
    exact hleads.trans (hf v l')

theorem ite {c : Prop} [Decidable c] {x y : Attempt (Link (σ × History)) α} (hx : Plain x)
    (hy : Plain y) : Plain (if c then x else y) := by
  by_cases h : c
  · rwa [if_pos h]
  · rwa [if_neg h]

theorem record {f : Session → Session} (hconnected : ∀ s, (f s).connected = s.connected)
    (hgeneration : ∀ s, (f s).generation = s.generation) :
    Plain (Attempt.update (Link.record f) : Attempt (Link (σ × History)) Unit) :=
  fun l ↦ .record hconnected hgeneration l

theorem asked (neutral : Option α) {r : Request} (hr : r.ofStatement = false) (f : r.Answer → α) :
    Plain (Connection.run (recorded srv) a neutral fun _ ↦ do
      return f (← (recorded srv).ask r)) :=
  leads_run srv a neutral fun _ ↦ (Talks.ask srv hr).bind fun _ ↦ .pure _

end Plain

theorem plain_connect : Plain (Connection.connect (recorded srv) a) :=
  leads_run srv a _ fun _ ↦ .pure true

theorem plain_ping : Plain (Connection.ping (recorded srv) a) :=
  .asked srv a _ (r := .ping) rfl fun _ ↦ true

theorem plain_selectSchema (schema : String) :
    Plain (Connection.selectSchema (recorded srv) a schema) :=
  .asked srv a _ (r := .selectDb schema) rfl fun _ ↦ true

theorem plain_recordSchema (schema : String) :
    Plain (Attempt.update (Link.record fun s ↦ { s with schema }) :
      Attempt (Link (σ × History)) Unit) :=
  .record (fun _ ↦ rfl) fun _ ↦ rfl

theorem plain_setSchema (schema : String) :
    Plain (Connection.setSchema (recorded srv) a schema) := by
  refine (plain_selectSchema srv a schema).bind fun changed ↦ ?_
  exact .ite ((plain_recordSchema schema).bind fun _ ↦ .pure changed) (.pure changed)

theorem plain_sendAutoCommit (on : Bool) :
    Plain (Connection.sendAutoCommit (recorded srv) a on) :=
  leads_run srv a _ fun _ ↦ .flag srv rfl

theorem plain_recordAutoCommit (on : Bool) :
    Plain (Attempt.update (Link.record fun s ↦ { s with autoCommit := on }) :
      Attempt (Link (σ × History)) Unit) :=
  .record (fun _ ↦ rfl) fun _ ↦ rfl

theorem plain_setAutoCommit (on : Bool) :
    Plain (Connection.setAutoCommit (recorded srv) a on) := by
  have hstate : Plain (Attempt.state : Attempt (Link (σ × History)) _) := fun l ↦ .refl l
  refine hstate.bind fun l ↦ .ite (.pure true) ?_
  refine (plain_sendAutoCommit srv a on).bind fun changed ↦ ?_
  exact .ite ((plain_recordAutoCommit on).bind fun _ ↦ .pure changed) (.pure changed)

theorem plain_execute (sql : String) : Plain (Connection.execute (recorded srv) a sql) :=
  .asked srv a _ (r := .query sql) rfl Connection.affectedRows

theorem plain_insert (sql : String) : Plain (Connection.insert (recorded srv) a sql) :=
  .asked srv a _ (r := .query sql) rfl Connection.lastInsertId

theorem plain_query (sql : String) : Plain (Connection.query (recorded srv) a sql) :=
  .asked srv a _ (r := .query sql) rfl Connection.firstRows

theorem plain_prepare (sql : String) : Plain (Statement.prepare (recorded srv) a sql) := by
  have hprepare : Talks (fun r ↦ r.ofStatement = false) ((recorded srv).ask (.prepare sql)) :=
    .ask srv rfl
  exact leads_run srv a _ fun _ ↦ hprepare.bind fun _ ↦ .pure _

theorem plain_start (isolation : IsolationLevel) (snapshot : Bool) :
    Plain (Transaction.start (recorded srv) a isolation snapshot) := by
  have hquery (sql : String) :
      Talks (fun r ↦ r.ofStatement = false) ((recorded srv).ask (.query sql)) := .ask srv rfl
  exact leads_run srv a _ fun _ ↦ (hquery _).discard.bind fun _ ↦
    (hquery _).discard.bind fun _ ↦ .pure _

end Link

end MariaClient
