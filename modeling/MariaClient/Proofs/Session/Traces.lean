import MariaClient.Proofs.Session.Advances

/-!
# Traces of transactions

What a transaction and its save points send in the course of turns, which any number of clones may
take and between which other things may be done, is well formed and is what the turns called for
(`Tracked.transaction_accounted`).  Nothing is sent any more once the client is lost at which the
transaction is at home.
-/

namespace MariaClient

open History Workspace Entity

variable {σ α : Type} (srv : Server σ) (a : Account)

/-! ## Clients that are lost -/

namespace Link

variable {g : Nat} {l l' : Link (σ × History)}

/-- The client of a generation was there and is lost. -/
def Lost (g : Nat) (l : Link (σ × History)) : Prop :=
  g ≤ l.session.generation ∧ Connection.alive g l = false

/-- A client that was lost does not come back. -/
theorem Lost.of_later (h : Lost g l) (hlater : Later l l') : Lost g l' := by
  obtain ⟨hle, hlost⟩ := h
  rcases hlater with hlt | ⟨heq, hsame⟩
  · have hg : g < l'.session.generation := Nat.lt_of_le_of_lt hle hlt
    refine ⟨Nat.le_of_lt hg, ?_⟩
    rw [Connection.alive, beq_false_of_ne (Nat.ne_of_gt hg), Bool.and_false]
  · refine ⟨heq ▸ hle, ?_⟩
    unfold Connection.alive at hlost ⊢
    rw [heq]
    cases hc : l'.session.connected with
    | false => rfl
    | true => rwa [(hsame hc).1] at hlost

theorem alive_or_lost (h : Connection.alive g l = true) (hlater : Later l l') :
    Connection.alive g l' = true ∨ Lost g l' := by
  have hg : l.session.generation = g := beq_iff_eq.1 (Bool.and_eq_true_iff.1 h).2
  have hle : g ≤ l'.session.generation := by
    rcases hlater with hlt | ⟨heq, -⟩
    · exact hg ▸ Nat.le_of_lt hlt
    · exact Nat.le_of_eq (hg.symm.trans heq.symm)
  cases halive : Connection.alive g l' with
  | true => exact .inl rfl
  | false => exact .inr ⟨hle, halive⟩

end Link

namespace Workspace

theorem link_made {w : Workspace σ} (x : Attempt (Link σ) α) (f : α → Entity) :
    ((do add (f (← onLink x)) : Attempt (Workspace σ) Outcome) w).2.link = (x w.link).2 := by
  rcases hr : x w.link with ⟨e | v, l⟩
  · rw [Attempt.bind_apply_error (onLink_apply hr)]
  · rw [Attempt.bind_apply_ok (onLink_apply hr)]
    rfl

end Workspace

/-! ## Beginnings -/

theorem Connection.open?_connected {l l' : Link σ} (h : open? srv a l = (.ok (), l')) :
    l'.session.connected = true := by
  unfold open? at h
  split at h
  next hc =>
    cases h
    exact hc
  next =>
    split at h
    · cases h
    · cases h
      rfl

/-- A request that succeeded is the newest event. -/
theorem Poses.of_ok {r : Request} {x : Attempt (σ × History) α} (h : Poses r x)
    {s s' : σ × History} {v : α} (hx : x s = (.ok v, s')) : s'.2 = .answered r none :: s.2 := by
  have hs := h s
  rw [hx] at hs
  exact hs

/-- A transaction that could be begun has asked for its isolation level and for its start, after
there was a client. -/
theorem Transaction.start_ok_apply {isolation : IsolationLevel} {snapshot : Bool}
    {l l' : Link (σ × History)} {t : Transaction}
    (h : start (recorded srv) a isolation snapshot l = (.ok t, l')) :
    t = { generation := l'.session.generation } ∧ l'.session.connected = true ∧
      l'.server.2 = .answered (.query (startSql snapshot)) none ::
        .answered (.query isolation.sql) none ::
          (Connection.open? (recorded srv) a l).2.server.2 := by
  rcases ho : Connection.open? (recorded srv) a l with ⟨e | ⟨⟩, opened⟩
  · rw [start, Connection.run_of_open_error _ _ ho] at h
    cases h
  · rcases hx : (do
      discard ((recorded srv).ask (.query isolation.sql))
      discard ((recorded srv).ask (.query (startSql snapshot)))
      return { generation := opened.session.generation } :
        Attempt (σ × History) Transaction) opened.server with ⟨e | v, s⟩
    · rw [start, Connection.run_of_open_ok _ _ ho hx] at h
      cases h
    · rw [start, Connection.run_of_open_ok _ _ ho hx] at h
      cases h
      obtain ⟨_, isolated, hisolation, hrest⟩ := Attempt.of_bind_ok hx
      obtain ⟨_, started, hstart, hpure⟩ := Attempt.of_bind_ok hrest
      cases hpure
      have hconnected := Connection.open?_connected _ _ ho
      refine ⟨rfl, hconnected, ?_⟩
      change s.2 = _
      rw [(Poses.ask srv _).discard.of_ok hstart, (Poses.ask srv _).discard.of_ok hisolation]

namespace History

variable {h h' : History} {new : List (Request × Option Error)}

/-- What was asked and answered between a history and a later one, the oldest first. -/
def since (h h' : History) : List (Request × Option Error) :=
  (h'.exchanges.take (h'.exchanges.length - h.exchanges.length)).reverse

theorem since_eq (heq : h'.exchanges = new ++ h.exchanges) : since h h' = new.reverse := by
  rw [since, heq, List.length_append, Nat.add_sub_cancel_right, List.take_left]

end History

/-! ## Turns and runs -/

namespace Tracked

variable {t : Tracked σ} {k g : Nat} {p : TransactionPhase} {turn : Turn}

/-- What a turn sends for a transaction and its save points. -/
def sends (k : Nat) (t : Tracked σ) (turn : Turn) : List (Request × Option Error) :=
  if turn.concerns k t.workspace then t.history.since (t.step srv a turn).history else []

/-- What turns send for a transaction and its save points. -/
def sent (k : Nat) : List Turn → Tracked σ → List (Request × Option Error)
  | [], _ => []
  | turn :: turns, t => t.sends srv a k turn ++ sent k turns (t.step srv a turn)

/-- The deeds that turns call for while the client of a transaction is there. -/
def called (k g : Nat) : List Turn → Tracked σ → List TransactionDeed
  | [], _ => []
  | turn :: turns, t =>
    (if turn.concerns k t.workspace && Connection.alive g t.workspace.link
      then turn.deeds t.workspace else []) ++ called k g turns (t.step srv a turn)

/-- What is alive of a transaction shows its phase, in a workspace in which all is in order. -/
structure InPhase (t : Tracked σ) (k : Nat) (p : TransactionPhase) : Prop where
  sound : t.Sound
  numbered : Numbered t.workspace.entities t.workspace.next
  known : k < t.workspace.next
  shows : p.Shows k (family k t.workspace.entities)

theorem Sound.later_step (ht : t.Sound) (turn : Turn) :
    Link.Later t.workspace.link (t.step srv a turn).workspace.link := by
  rcases hopener : turn.opener? with _ | opener
  · exact (ht.follows_take srv a hopener).leads.later
  · cases turn with
    | perform op =>
      cases op with
      | prepare sql =>
        have hlater := (Link.plain_prepare srv a sql t.workspace.link).later
        rwa [← link_made (w := t.workspace) _ Entity.statement] at hlater
      | start isolation snapshot =>
        have hlater := (Link.plain_start srv a isolation snapshot t.workspace.link).later
        rwa [← link_made (w := t.workspace) _ Entity.transaction] at hlater
      | _ => cases hopener
    | _ => cases hopener

theorem InPhase.step (h : t.InPhase k p) (turn : Turn) :
    ∃ (u : Trace) (q : TransactionPhase),
      u.map Prod.fst = (if turn.concerns k t.workspace then turn.deeds t.workspace else []) ∧
        p.Run u q ∧ (t.step srv a turn).InPhase k q ∧
        t.sends srv a k turn =
          if Connection.alive p.transaction.generation t.workspace.link then u.exchanges
          else [] := by
  obtain ⟨hnumbered, hnext⟩ := (alters_take (recorded srv) a turn t.workspace).numbered h.numbered
  have hknown := Nat.lt_of_lt_of_le h.known hnext
  cases hconcerns : turn.concerns k t.workspace with
  | true =>
    obtain ⟨u, q, hu, hrun, hperforms, hshows⟩ := h.shows.take srv a h.numbered hconcerns
    refine ⟨u, q, hu, hrun, ⟨h.sound.step srv a turn, hnumbered, hknown, hshows⟩, ?_⟩
    rw [sends, if_pos hconcerns]
    refine (since_eq hperforms).trans ?_
    split
    · exact List.reverse_reverse _
    · rfl
  | false =>
    have hfamily := (alters_take (recorded srv) a turn t.workspace).family_eq h.numbered h.known
      h.shows.running_or_nil hconcerns
    have hshows : p.Shows k (family k (t.step srv a turn).workspace.entities) :=
      hfamily.symm ▸ h.shows
    refine ⟨[], p, rfl, .nil p, ⟨h.sound.step srv a turn, hnumbered, hknown, hshows⟩, ?_⟩
    rw [sends, hconcerns, if_neg Bool.false_ne_true]
    exact (ite_self _).symm

/-- Nothing is sent for a transaction whose client is lost. -/
theorem InPhase.sent_of_lost (h : t.InPhase k p) (hg : p.transaction.generation = g)
    (hlost : Link.Lost g t.workspace.link) (turns : List Turn) :
    t.sent srv a k turns = [] ∧ t.called srv a k g turns = [] := by
  induction turns generalizing t p with
  | nil => exact ⟨rfl, rfl⟩
  | cons turn turns ih =>
    obtain ⟨u, q, -, hrun, hnext, hsends⟩ := h.step srv a turn
    obtain ⟨hsent, hcalled⟩ := ih hnext (hrun.generation_eq.trans hg)
      (hlost.of_later (h.sound.later_step srv a turn))
    rw [hg, hlost.2, if_neg Bool.false_ne_true] at hsends
    refine ⟨?_, ?_⟩
    · rw [sent, hsends, hsent]
      rfl
    · rw [called, hlost.2, Bool.and_false, hcalled]
      rfl

theorem Sound.lost_run (ht : t.Sound) (hlost : Link.Lost g t.workspace.link) (turns : List Turn) :
    Link.Lost g (t.run srv a turns).workspace.link := by
  induction turns generalizing t with
  | nil => exact hlost
  | cons turn turns ih => exact ih (ht.step srv a turn) (hlost.of_later (ht.later_step srv a turn))

theorem Sound.alive_or_lost_run (ht : t.Sound)
    (halive : Connection.alive g t.workspace.link = true) (turns : List Turn) :
    Connection.alive g (t.run srv a turns).workspace.link = true ∨
      Link.Lost g (t.run srv a turns).workspace.link := by
  induction turns generalizing t with
  | nil => exact .inl halive
  | cons turn turns ih =>
    rcases Link.alive_or_lost halive (ht.later_step srv a turn) with hstill | hlost
    · exact ih (ht.step srv a turn) hstill
    · exact .inr ((ht.step srv a turn).lost_run srv a hlost turns)

theorem InPhase.exists_run (h : t.InPhase k p) (turns : List Turn) :
    ∃ q, (t.run srv a turns).InPhase k q ∧ q.transaction.generation = p.transaction.generation := by
  induction turns generalizing t p with
  | nil => exact ⟨p, h, rfl⟩
  | cons turn turns ih =>
    obtain ⟨_, q, -, hrun, hnext, -⟩ := h.step srv a turn
    obtain ⟨r, hr, hgeneration⟩ := ih hnext
    exact ⟨r, hr, hgeneration.trans hrun.generation_eq⟩

/-- What turns send for a transaction is what they call for, until its client is lost. -/
theorem InPhase.run (h : t.InPhase k p) (hg : p.transaction.generation = g)
    (halive : Connection.alive g t.workspace.link = true) (turns : List Turn) :
    ∃ (u : Trace) (q : TransactionPhase), u.map Prod.fst = t.called srv a k g turns ∧ p.Run u q ∧
      t.sent srv a k turns = u.exchanges ∧
      (Connection.alive g (t.run srv a turns).workspace.link = true →
        (t.run srv a turns).InPhase k q) := by
  induction turns generalizing t p with
  | nil => exact ⟨[], p, rfl, .nil p, rfl, fun _ ↦ h⟩
  | cons turn turns ih =>
    obtain ⟨u, q, hu, hrun, hnext, hsends⟩ := h.step srv a turn
    have hq : q.transaction.generation = g := hrun.generation_eq.trans hg
    rw [hg, if_pos halive] at hsends
    -- the turn may have lost the client, and then the trace ends with what this turn has sent
    rcases Link.alive_or_lost halive (h.sound.later_step srv a turn) with hstill | hlost
    · obtain ⟨v, r, hv, hrest, hsent, hend⟩ := ih hnext hq hstill
      refine ⟨u ++ v, r, ?_, hrun.append hrest, ?_, hend⟩
      · rw [List.map_append, hu, hv, called, halive, Bool.and_true]
      · rw [sent, hsends, hsent, Trace.exchanges_append]
    · obtain ⟨hsent, hcalled⟩ := hnext.sent_of_lost srv a hq hlost turns
      refine ⟨u, q, ?_, hrun, ?_, ?_⟩
      · rw [hu, called, halive, Bool.and_true, hcalled, List.append_nil]
      · rw [sent, hsends, hsent, List.append_nil]
      · intro hend
        have hgone := (hnext.sound.lost_run srv a hlost turns).2
        exact absurd (hgone.symm.trans hend) Bool.false_ne_true

/-! ## Transactions from their beginning on -/

theorem numbered_run (hnumbered : Numbered t.workspace.entities t.workspace.next)
    (turns : List Turn) :
    Numbered (t.run srv a turns).workspace.entities (t.run srv a turns).workspace.next := by
  induction turns generalizing t with
  | nil => exact hnumbered
  | cons turn turns ih =>
    exact ih ((alters_take (recorded srv) a turn t.workspace).numbered hnumbered).1

/-- A transaction that was begun is in its first phase, with the client that was asked for it. -/
theorem inPhase_begun (ht : t.Sound) (hnumbered : Numbered t.workspace.entities t.workspace.next)
    {isolation : IsolationLevel} {snapshot : Bool}
    (hbegun : (Turn.take (recorded srv) a (.perform (.start isolation snapshot)) t.workspace).1 =
      .ok (.created k)) :
    ∃ g, (t.step srv a (.perform (.start isolation snapshot))).InPhase k (.begun g) ∧
      Connection.alive g (t.step srv a (.perform (.start isolation snapshot))).workspace.link =
        true ∧
      (t.step srv a (.perform (.start isolation snapshot))).history =
        .answered (.query (Transaction.startSql snapshot)) none ::
          .answered (.query isolation.sql) none ::
            (Connection.open? (recorded srv) a t.workspace.link).2.server.2 := by
  rcases hr : Transaction.start (recorded srv) a isolation snapshot t.workspace.link with
    ⟨e | tr, l⟩
  · have hlink := onLink_apply hr
    rw [Turn.take, perform, Attempt.bind_apply_error hlink] at hbegun
    cases hbegun
  · have hlink := onLink_apply hr
    rw [Turn.take, perform, Attempt.bind_apply_ok hlink] at hbegun
    cases hbegun
    obtain ⟨rfl, hconnected, hhistory⟩ := Transaction.start_ok_apply srv a hr
    have hworkspace : (t.step srv a (.perform (.start isolation snapshot))).workspace =
        { link := l
          entities := (t.workspace.next, .transaction { generation := l.session.generation }) ::
            t.workspace.entities
          next := t.workspace.next + 1 } := by
      change (Turn.take (recorded srv) a (.perform (.start isolation snapshot)) t.workspace).2 = _
      rw [Turn.take, perform, Attempt.bind_apply_ok hlink]
      rfl
    have hnone : family t.workspace.next t.workspace.entities = [] := by
      refine List.filter_eq_nil_iff.2 ?_
      rintro ⟨n, e⟩ hmem hroot
      exact Nat.ne_of_lt (hnumbered.lt n e hmem).2 (beq_iff_eq.1 hroot)
    refine ⟨l.session.generation, ⟨ht.step srv a _, ?_, ?_, ?_⟩, ?_, ?_⟩
    · exact ((alters_take (recorded srv) a (.perform (.start isolation snapshot))
        t.workspace).numbered hnumbered).1
    · rw [hworkspace]
      exact Nat.lt_succ_self _
    · rw [hworkspace]
      refine .running _ [] ?_ fun _ hx ↦ absurd hx List.not_mem_nil
      exact (family_cons rfl).trans (congrArg (_ :: ·) hnone)
    · rw [hworkspace, Connection.alive, hconnected, beq_self_eq_true]
      rfl
    · rw [history, hworkspace, hhistory]

/-- What turns `turns` send for the transaction `k`, which was begun with the client of generation
`g`, and what they call for, is the trace `u`. -/
structure Accounts (t : Tracked σ) (k g : Nat) (turns : List Turn) (u : Trace) : Prop where
  sent : t.sent srv a k turns = u.exchanges
  called : u.map Prod.fst = t.called srv a k g turns
  wellFormed : u.WellFormed
  finished : Connection.alive g (t.run srv a turns).workspace.link = true →
    (t.run srv a turns).workspace.find? k = none →
      ∃ earlier commit failure, u = earlier ++ [(.finish commit, failure)]
  silent : ∀ earlier later, turns = earlier ++ later →
    Connection.alive g (t.run srv a earlier).workspace.link = false →
      (t.run srv a earlier).sent srv a k later = []

theorem InPhase.accounts (h : t.InPhase k (.begun g))
    (halive : Connection.alive g t.workspace.link = true) (turns : List Turn) :
    ∃ u, t.Accounts srv a k g turns u := by
  obtain ⟨u, q, hu, hrun, hsent, hend⟩ := h.run srv a rfl halive turns
  refine ⟨u, hsent, hu, hrun.wellFormed, ?_, ?_⟩
  · intro hstill hgone
    have hq := hend hstill
    cases q with
    | closed t₀ => exact hrun.exists_finish nofun
    | running t₀ ps =>
      have hfind := (hq.shows.find? hq.numbered).symm.trans hgone
      cases hfind
  · rintro earlier later rfl hgone
    obtain ⟨q, hq, hg⟩ := h.exists_run srv a earlier
    have hlost := (h.sound.alive_or_lost_run srv a halive earlier).resolve_left
      fun hstill ↦ Bool.false_ne_true (hgone.symm.trans hstill)
    exact (hq.sent_of_lost srv a hg hlost later).1

/-- After any turns, a transaction that could be begun has asked for its isolation level and for its
start, after there was a client.  What any turns after that send for the transaction is well formed
and is what they call for, it ends with the end of the transaction, and nothing of it is sent once
the client is lost. -/
theorem transaction_accounted (s : σ) (before after : List Turn) (isolation : IsolationLevel)
    (snapshot : Bool) (k : Nat)
    (hbegun : (Turn.take (recorded srv) a (.perform (.start isolation snapshot))
      ((start a s).run srv a before).workspace).1 = .ok (.created k)) :
    let t := (start a s).run srv a before
    let begun := t.step srv a (.perform (.start isolation snapshot))
    begun.history =
      .answered (.query (Transaction.startSql snapshot)) none ::
        .answered (.query isolation.sql) none ::
          (Connection.open? (recorded srv) a t.workspace.link).2.server.2 ∧
      ∃ (g : Nat) (u : Trace), Connection.alive g begun.workspace.link = true ∧
        begun.Accounts srv a k g after u := by
  have hsound : (start a s).Sound := by
    intro n e hmem
    cases hmem
  have hnumbered : Numbered (start a s).workspace.entities (start a s).workspace.next :=
    ⟨nofun, .nil, nofun⟩
  obtain ⟨g, hphase, halive, hhistory⟩ := inPhase_begun srv a (hsound.run srv a before)
    (numbered_run srv a hnumbered before) hbegun
  obtain ⟨u, hu⟩ := hphase.accounts srv a halive after
  exact ⟨hhistory, g, u, halive, hu⟩

/-- A transaction with three save points: the first is dropped at last, the second is refused and
the third is released. -/
theorem transaction_accounted_threeSavePoints :
    let s : Script := { queries := [("SAVEPOINT SP2", [.error (.server 1064 "No")])] }
    let t := (start {} s).run Script.server {} [.perform .connect]
    let begun := t.step Script.server {} (.perform (.start .serializable false))
    let after : List Turn := [.perform (.createSavePoint 1), .perform (.createSavePoint 1),
      .perform (.createSavePoint 1), .perform (.execute "DELETE FROM t"),
      .perform (.releaseSavePoint 3), .perform (.finish 1 true)]
    (Turn.take (recorded Script.server) {} (.perform (.start .serializable false))
      t.workspace).1 = .ok (.created 1) ∧
    begun.history =
      [.answered (.query "START TRANSACTION;") none,
        .answered (.query "SET TRANSACTION ISOLATION LEVEL SERIALIZABLE;") none, .connected] ∧
    ∃ u, begun.Accounts Script.server {} 1 1 after u ∧
      u.exchanges =
        [(.query "SAVEPOINT SP1", none),
          (.query "SAVEPOINT SP2", some (.server 1064 "No")),
          (.query "SAVEPOINT SP3", none),
          (.query "RELEASE SAVEPOINT SP3", none),
          (.query "ROLLBACK TO SAVEPOINT SP1", none),
          (.query "COMMIT", none)] := by
  intro s t begun after
  have hbegun : (Turn.take (recorded Script.server) {} (.perform (.start .serializable false))
      t.workspace).1 = .ok (.created 1) := by
    decide +kernel +zetaReduce
  obtain ⟨hhistory, g, u, halive, hu⟩ :=
    transaction_accounted Script.server {} s [.perform .connect] after .serializable false 1 hbegun
  have hgeneration : begun.workspace.link.session.generation = 1 := by
    decide +kernel +zetaReduce
  obtain rfl : g = 1 := (beq_iff_eq.1 (Bool.and_eq_true_iff.1 halive).2).symm.trans hgeneration
  have hopened : (Connection.open? (recorded Script.server) {} t.workspace.link).2.server.2 =
      [.connected] := by
    decide +kernel +zetaReduce
  refine ⟨hbegun, ?_, u, hu, hu.sent.symm.trans ?_⟩
  · rw [← hopened]
    exact hhistory
  · decide +kernel +zetaReduce

end Tracked

end MariaClient
