import MariaClient.Proofs.Session.Deeds
import MariaClient.Proofs.Session.Families
import MariaClient.Proofs.Session.Settings

/-!
# Turns about a transaction

What is alive of a family tells the phase that its transaction has come to
(`TransactionPhase.Shows`).  A turn that is about the transaction or about one of its save points
gets it on by the deeds that the turn calls for, and sends the statements of these deeds unless
their client is lost (`TransactionPhase.Shows.take`).
-/

namespace MariaClient

open History Workspace Entity

variable {σ α β : Type} (srv : Server σ) (a : Account)

/-! ## Exchanges -/

namespace History

/-- The requests with the errors by which they were answered, the newest first. -/
def exchanges : History → List (Request × Option Error)
  | .answered r failure :: h => (r, failure) :: exchanges h
  | _ :: h => exchanges h
  | [] => []

end History

/-- The statements of deeds with the errors by which they were answered. -/
def Trace.exchanges (t : Trace) : List (Request × Option Error) :=
  t.map fun (d, failure) ↦ (d.request, failure)

theorem Trace.exchanges_append (t u : Trace) : (t ++ u).exchanges = t.exchanges ++ u.exchanges :=
  List.map_append

/-- A step on a client that makes one request and fails as the request does. -/
def Poses (r : Request) (x : Attempt (σ × History) α) : Prop :=
  ∀ s, (x s).2.2 = .answered r (failure? (x s).1) :: s.2

namespace Poses

variable {r : Request} {x : Attempt (σ × History) α}

theorem ask (r : Request) : Poses r ((recorded srv).ask r) :=
  fun _ ↦ rfl

theorem map (h : Poses r x) (f : α → β) : Poses r (do return f (← x)) := by
  intro s
  have hs := h s
  rcases hx : x s with ⟨e | v, s'⟩
  · rw [hx] at hs
    rw [Attempt.bind_apply_error hx]
    exact hs
  · rw [hx] at hs
    rw [Attempt.bind_apply_ok hx]
    exact hs

theorem discard (h : Poses r x) : Poses r (discard x) :=
  h.map fun _ ↦ ()

end Poses

namespace Link

variable {g : Nat} {t u : Trace} {d : TransactionDeed} {l l' l'' : Link (σ × History)}

/-- The statements of deeds are sent, unless the client of their generation is lost. -/
def Performs (g : Nat) (t : Trace) (l l' : Link (σ × History)) : Prop :=
  l'.server.2.exchanges =
    (if Connection.alive g l then t.exchanges.reverse else []) ++ l.server.2.exchanges

theorem Performs.refl (g : Nat) (l : Link (σ × History)) : Performs g [] l l := by
  unfold Performs
  split <;> rfl

theorem Performs.trans (h : Performs g t l l')
    (halive : Connection.alive g l' = Connection.alive g l) (h' : Performs g u l' l'') :
    Performs g (t ++ u) l l'' := by
  unfold Performs at h h' ⊢
  rw [h', h, halive]
  split
  · rw [Trace.exchanges_append, List.reverse_append, List.append_assoc]
  · rfl

theorem settle_exchanges (neutral : Option α) (r : Except Error α) (l : Link (σ × History)) :
    (Connection.settle (recorded srv) a neutral r l).2.server.2.exchanges =
      l.server.2.exchanges := by
  rcases r with e | v
  · dsimp only [Connection.settle]
    split
    · unfold Connection.disconnect
      split <;> rfl
    · rfl
  · rfl

theorem alive_of_session (h : l'.session = l.session) :
    Connection.alive g l' = Connection.alive g l :=
  congrArg (fun s : Session ↦ s.connected && s.generation == g) h

/-- An operation on the client of a generation that makes one request. -/
theorem exchanges_runIn (neutral : Option α) {request : Request} {x : Attempt (σ × History) α}
    (hx : Poses request x) (l : Link (σ × History)) :
    ∃ r, (Connection.runIn (recorded srv) a g neutral x l).1 = Connection.shown a neutral r ∧
      (Connection.runIn (recorded srv) a g neutral x l).2.server.2.exchanges =
        (if Connection.alive g l then [(request, failure? r)] else []) ++
          l.server.2.exchanges := by
  by_cases ha : Connection.alive g l = true
  · have hs := hx l.server
    rcases hr : x l.server with ⟨r, s⟩
    rw [hr] at hs
    rw [Connection.runIn_of_alive _ _ ha hr]
    refine ⟨r, settle_fst _ _ _ _, ?_⟩
    rw [settle_exchanges, if_pos ha]
    exact congrArg exchanges hs
  · rw [Connection.runIn_of_not_alive _ _ ha]
    refine ⟨.error .notConnected, settle_fst _ _ _ _, ?_⟩
    rw [settle_exchanges, if_neg ha]
    rfl

theorem performs_runIn (neutral : Option α) {x : Attempt (σ × History) α}
    (hx : Poses d.request x) (l : Link (σ × History)) :
    ∃ r, (Connection.runIn (recorded srv) a g neutral x l).1 = Connection.shown a neutral r ∧
      Performs g [(d, failure? r)] l (Connection.runIn (recorded srv) a g neutral x l).2 :=
  exchanges_runIn srv a neutral hx l

/-- A request whose outcome does not matter. -/
theorem performs_quietly (d : TransactionDeed) (l : Link (σ × History)) :
    (∃ failure, Performs g [(d, failure)] l (Connection.quietly (recorded srv) g d.request l)) ∧
      (Connection.quietly (recorded srv) g d.request l).session = l.session := by
  unfold Connection.quietly
  by_cases ha : Connection.alive g l = true
  · rw [if_pos ha]
    refine ⟨⟨failure? ((recorded srv).ask d.request l.server).1, ?_⟩, rfl⟩
    unfold Performs
    rw [if_pos ha]
    rfl
  · rw [if_neg ha]
    refine ⟨⟨none, ?_⟩, rfl⟩
    unfold Performs
    rw [if_neg ha]
    rfl

end Link

/-! ## Phases and what is alive -/

/-- The save points of a transaction that are open, the newest first. -/
def Workspace.openPoints (number : Nat) (w : Workspace σ) : List SavePoint :=
  (w.entities.filter fun (_, e) ↦ ownedBy number e).filterMap fun
    | (_, .savePoint _ p) => some p
    | _ => none

/-- The deeds that a turn calls for if it is about a transaction or about a save point. -/
def Turn.deeds (w : Workspace σ) : Turn → List TransactionDeed
  | .perform (.createSavePoint n) =>
    (w.transaction? n).toList.map fun t ↦ .save t.counted.lastSavePoint
  | .perform (.releaseSavePoint n) => (w.savePoint? n).toList.map .release
  | .perform (.finish n commit) =>
    if (w.transaction? n).isSome then (w.openPoints n).map .rollBack ++ [.finish commit] else []
  | .perform (.drop n) =>
    match w.find? n with
    | some (.transaction _) => (w.openPoints n).map .rollBack ++ [.finish false]
    | some (.savePoint _ p) => [.rollBack p]
    | _ => []
  | _ => []

/-- What is alive of a family shows its phase.  All of it is of the same client. -/
inductive TransactionPhase.Shows (k : Nat) : TransactionPhase → List (Nat × Entity) → Prop
  | running (t : Transaction) (qs : List (Nat × SavePoint)) {es : List (Nat × Entity)}
    (hes : es = members k t qs) (hclient : ∀ x ∈ qs, x.2.generation = t.generation) :
    Shows k (.running t (qs.map Prod.snd)) es
  | closed (t : Transaction) : Shows k (.closed t) []

/-- A turn gets a transaction from its phase to another by deeds that it performs. -/
def TransactionPhase.Advances (k : Nat) (p : TransactionPhase) (ds : List TransactionDeed)
    (w w' : Workspace (σ × History)) : Prop :=
  ∃ (t : Trace) (q : TransactionPhase), t.map Prod.fst = ds ∧ p.Run t q ∧
    Link.Performs p.transaction.generation t w.link w'.link ∧ q.Shows k (family k w'.entities)

namespace Workspace

variable {w : Workspace (σ × History)} {k n : Nat} {t : Transaction} {p : SavePoint}
  {qs xs ys : List (Nat × SavePoint)} {g : Nat}

/-- The save points of a transaction are rolled back one after the other.  No answer ends the
session, so that all of this happens or nothing. -/
theorem performs_rollBacks (k : Nat) (hqs : ∀ x ∈ qs, x.2.generation = g)
    (l : Link (σ × History)) :
    (∃ t : Trace, t.map Prod.fst = (qs.map Prod.snd).map .rollBack ∧
      Link.Performs g t l ((savePoints k qs).foldl
        (fun l (_, e) ↦ cleanUp (recorded srv) e l) l)) ∧
    ((savePoints k qs).foldl
      (fun l (_, e) ↦ cleanUp (recorded srv) e l) l).session = l.session := by
  induction qs generalizing l with
  | nil => exact ⟨⟨[], rfl, .refl g l⟩, rfl⟩
  | cons x qs ih =>
    obtain ⟨n, p⟩ := x
    obtain ⟨hp, hqs⟩ := List.forall_mem_cons.1 hqs
    subst hp
    obtain ⟨⟨failure, hfirst⟩, hsession⟩ := Link.performs_quietly srv (.rollBack p) l
    obtain ⟨⟨t, ht, hrest⟩, hsessions⟩ := ih hqs (cleanUp (recorded srv) (.savePoint k p) l)
    refine ⟨⟨(.rollBack p, failure) :: t, congrArg (_ :: ·) ht, ?_⟩, hsessions.trans hsession⟩
    exact Link.Performs.trans hfirst (Link.alive_of_session hsession) hrest

end Workspace

/-! ## Turns about a transaction -/

namespace TransactionPhase

variable {w : Workspace (σ × History)} {k n : Nat} {t : Transaction} {p : TransactionPhase}
  {qs xs ys : List (Nat × SavePoint)} {e : Entity}

theorem Shows.advances_refl (h : p.Shows k (family k w.entities)) : p.Advances k [] w w :=
  ⟨[], p, rfl, .nil p, .refl _ _, h⟩

/-- A family has a transaction or nothing that is alive. -/
theorem Shows.running_or_nil {es : List (Nat × Entity)} (h : p.Shows k (family k es)) :
    family k es = [] ∨ ∃ t, (k, .transaction t) ∈ es := by
  generalize hes : family k es = members at h
  cases h with
  | closed t => exact .inl rfl
  | running t qs heq hclient => exact .inr ⟨t, transaction_mem (hes.trans heq)⟩

theorem Shows.find? {ps : List SavePoint}
    (h : (TransactionPhase.running t ps).Shows k (family k w.entities))
    (hw : Numbered w.entities w.next) : w.find? k = some (.transaction t) := by
  generalize hes : family k w.entities = members at h
  cases h with
  | running _ qs heq hclient => exact find?_of_mem hw (transaction_mem (hes.trans heq))

section Transaction

variable (hw : Numbered w.entities w.next) (hes : family k w.entities = members k t qs)
include hes

theorem openPoints_eq : w.openPoints k = qs.map Prod.snd := by
  rw [openPoints, filter_ownedBy hes, savePoints, List.filterMap_map]
  exact congrFun (List.filterMap_eq_map (f := Prod.snd)) qs

variable (hclient : ∀ x ∈ qs, x.2.generation = t.generation)
include hw hclient

theorem advances_finish (commit : Bool) :
    (running t (qs.map Prod.snd)).Advances k ((qs.map Prod.snd).map .rollBack ++ [.finish commit])
      w (Workspace.finish (recorded srv) a k commit w).2 := by
  have htransaction := transaction?_of_mem hw (transaction_mem hes)
  obtain ⟨⟨u, hu, hrolled⟩, hsession⟩ := performs_rollBacks srv k hclient w.link
  have hposes : Poses (TransactionDeed.finish commit).request
      (do
        Functor.discard ((recorded srv).ask (.query (Transaction.endSql commit)))
        return true) := by
    rw [TransactionDeed.request_finish]
    exact (Poses.ask srv _).discard.map fun _ ↦ true
  obtain ⟨r, -, hended⟩ := Link.performs_runIn srv a (some false) hposes
    ((savePoints k qs).foldl (fun l (_, e) ↦ cleanUp (recorded srv) e l) w.link)
  refine ⟨u ++ [(.finish commit, failure? r)], .closed t, ?_, ?_, ?_, ?_⟩
  · rw [List.map_append, hu]
    rfl
  · exact (Run.rollBacks hu).append (.cons (.finished t commit _) (.nil _))
  · rw [finish_of_transaction (recorded srv) a htransaction, filter_ownedBy hes]
    exact hrolled.trans (Link.alive_of_session hsession) hended
  · rw [finish_of_transaction (recorded srv) a htransaction]
    dsimp only
    rw [family_eq_nil]
    · exact .closed t
    · intro n e hmem
      obtain ⟨hkept, hn⟩ := List.mem_filter.1 hmem
      exact ⟨bne_iff_ne.1 hn, by simpa using (List.mem_filter.1 hkept).2⟩

theorem advances_createSavePoint :
    (running t (qs.map Prod.snd)).Advances k [.save t.counted.lastSavePoint]
      w (Workspace.createSavePoint (recorded srv) a k w).2 := by
  have htransaction := transaction?_of_mem hw (transaction_mem hes)
  have hposes : Poses (TransactionDeed.save t.counted.lastSavePoint).request
      (discard ((recorded srv).ask (.query t.counted.lastSavePoint.createSql))) :=
    (Poses.ask srv _).discard
  obtain ⟨r, hshown, hasked⟩ := Link.performs_runIn srv a (g := t.generation) none hposes w.link
  have hcreate : t.counted.lastSavePoint.create (recorded srv) a w.link =
      (Connection.shown a none r, (t.counted.lastSavePoint.create (recorded srv) a w.link).2) :=
    Prod.ext hshown rfl
  have hcounted := hw.family_counted hes
  -- the number is used up in both cases, but a save point that was refused is none to end
  rcases r with e | ⟨⟩
  · rw [createSavePoint_of_error (recorded srv) a htransaction hcreate]
    exact ⟨[(.save t.counted.lastSavePoint, some e)], _, rfl, .cons (.refused t _ e) (.nil _),
      hasked, .running t.counted qs hcounted hclient⟩
  · rw [createSavePoint_of_ok (recorded srv) a htransaction hcreate]
    refine ⟨[(.save t.counted.lastSavePoint, none)], _, rfl, .cons (.saved t _) (.nil _), hasked,
      .running t.counted ((w.next, t.counted.lastSavePoint) :: qs) ?_ ?_⟩
    · exact (family_cons rfl).trans (congrArg (_ :: ·) hcounted)
    · exact List.forall_mem_cons.2 ⟨rfl, hclient⟩

theorem advances_drop_transaction :
    (running t (qs.map Prod.snd)).Advances k ((qs.map Prod.snd).map .rollBack ++ [.finish false])
      w (dropEntity (recorded srv) k w) := by
  obtain ⟨⟨u, hu, hrolled⟩, hsession⟩ := performs_rollBacks srv k hclient w.link
  obtain ⟨⟨failure, hended⟩, -⟩ := Link.performs_quietly srv (g := t.generation) (.finish false)
    ((savePoints k qs).foldl (fun l (_, e) ↦ cleanUp (recorded srv) e l) w.link)
  refine ⟨u ++ [(.finish false, failure)], .closed t, ?_, ?_, ?_, ?_⟩
  · rw [List.map_append, hu]
    rfl
  · exact (Run.rollBacks hu).append (.cons (.finished t false _) (.nil _))
  · rw [dropEntity, dropWhere, hw.filter_family hes, members, List.foldl_append]
    exact hrolled.trans (Link.alive_of_session hsession) hended
  · rw [dropEntity, dropWhere]
    dsimp only
    rw [family_eq_nil]
    · exact .closed t
    · intro n e hmem
      simpa using (List.mem_filter.1 hmem).2

end Transaction

section SavePoint

variable {q : SavePoint} (hw : Numbered w.entities w.next)
  (hes : family k w.entities = members k t (xs ++ (n, q) :: ys))
  (hclient : ∀ x ∈ xs ++ (n, q) :: ys, x.2.generation = t.generation)
include hclient

theorem generation_of_middle :
    q.generation = t.generation ∧ ∀ x ∈ xs ++ ys, x.2.generation = t.generation := by
  refine ⟨hclient (n, q) (List.mem_append_right _ List.mem_cons_self), fun x hx ↦ hclient x ?_⟩
  rcases List.mem_append.1 hx with hx | hx
  · exact List.mem_append_left _ hx
  · exact List.mem_append_right _ (List.mem_cons_of_mem _ hx)

include hw hes

theorem advances_releaseSavePoint :
    (running t ((xs ++ (n, q) :: ys).map Prod.snd)).Advances k [.release q]
      w (Workspace.releaseSavePoint (recorded srv) a n w).2 := by
  have hsavePoint := savePoint?_of_mem hw
    (savePoint_mem hes (List.mem_append_right xs List.mem_cons_self))
  obtain ⟨hgeneration, hothers⟩ := generation_of_middle hclient
  have hposes : Poses (TransactionDeed.release q).request
      (do
        Functor.discard ((recorded srv).ask (.query q.releaseSql))
        return true) :=
    (Poses.ask srv _).discard.map fun _ ↦ true
  obtain ⟨r, -, hasked⟩ := Link.performs_runIn srv a (g := q.generation) (some false) hposes w.link
  have hshows := Shows.running t (xs ++ ys) (hw.family_forget hes) hothers
  rw [releaseSavePoint_of_savePoint (recorded srv) a hsavePoint]
  rw [List.map_append] at hshows ⊢
  exact ⟨[(.release q, failure? r)], _, rfl, .cons (.released t _ q _ _) (.nil _),
    hgeneration ▸ hasked, hshows⟩

theorem advances_drop_savePoint :
    (running t ((xs ++ (n, q) :: ys).map Prod.snd)).Advances k [.rollBack q]
      w (dropEntity (recorded srv) n w) := by
  obtain ⟨hgeneration, hothers⟩ := generation_of_middle hclient
  obtain ⟨⟨failure, hasked⟩, -⟩ :=
    Link.performs_quietly srv (g := q.generation) (.rollBack q) w.link
  have hshows := Shows.running t (xs ++ ys) (hw.family_forget hes) hothers
  rw [List.map_append] at hshows ⊢
  refine ⟨[(.rollBack q, failure)], _, rfl, .cons (.rolledBack t _ q _ _) (.nil _), ?_, ?_⟩
  · rw [dropEntity, dropWhere, hw.filter_savePoint hes]
    exact hgeneration ▸ hasked
  · rw [dropEntity, dropWhere]
    have hother : w.entities.filter (fun (m, e) ↦ !(m == n || ownedBy n e)) =
        w.entities.filter fun (m, _) ↦ m != n := by
      refine List.filter_congr fun x hx ↦ ?_
      dsimp only
      rw [hw.not_ownedBy_savePoint hes x hx, Bool.or_false]
      rfl
    dsimp only
    rw [hother]
    exact hshows

end SavePoint

section Turns

variable {turn : Turn}

theorem Shows.advances_withStatement (h : p.Shows k (family k w.entities))
    (hstatement : w.statement? n = none)
    (x : Statement → Attempt (Link (σ × History)) Outcome) :
    p.Advances k [] w (withStatement n x w).2 := by
  rw [withStatement_of_none hstatement]
  exact h.advances_refl

theorem advances_of_transaction (hw : Numbered w.entities w.next)
    (hes : family k w.entities = members k t qs)
    (hclient : ∀ x ∈ qs, x.2.generation = t.generation) (htarget : turn.target? = some k) :
    (running t (qs.map Prod.snd)).Advances k (turn.deeds w) w
      (turn.take (recorded srv) a w).2 := by
  have hfind := find?_of_mem hw (transaction_mem hes)
  have htransaction := transaction?_of_mem hw (transaction_mem hes)
  have hstatement : w.statement? k = none := by
    rw [statement?, hfind]
  have hsavePoint : w.savePoint? k = none := by
    rw [savePoint?, hfind]
  have hshows := Shows.running t qs hes hclient
  cases turn with
  | perform op =>
    cases op with
    | executeStatement number =>
      cases htarget
      exact hshows.advances_withStatement hstatement _
    | insertStatement number =>
      cases htarget
      exact hshows.advances_withStatement hstatement _
    | queryStatement number =>
      cases htarget
      exact hshows.advances_withStatement hstatement _
    | finish number commit =>
      cases htarget
      have hdeeds : Turn.deeds w (.perform (.finish k commit)) =
          (qs.map Prod.snd).map .rollBack ++ [.finish commit] := by
        rw [Turn.deeds, htransaction, openPoints_eq hes]
        rfl
      rw [hdeeds]
      exact advances_finish srv a hw hes hclient commit
    | createSavePoint number =>
      cases htarget
      have hdeeds : Turn.deeds w (.perform (.createSavePoint k)) =
          [.save t.counted.lastSavePoint] := by
        rw [Turn.deeds, htransaction]
        rfl
      rw [hdeeds]
      exact advances_createSavePoint srv a hw hes hclient
    | releaseSavePoint number =>
      cases htarget
      have hdeeds : Turn.deeds w (.perform (.releaseSavePoint k)) = [] := by
        rw [Turn.deeds, hsavePoint]
        rfl
      rw [hdeeds, Turn.take, perform, releaseSavePoint_of_none (recorded srv) a hsavePoint]
      exact hshows.advances_refl
    | drop number =>
      cases htarget
      have hdeeds : Turn.deeds w (.perform (.drop k)) =
          (qs.map Prod.snd).map .rollBack ++ [.finish false] := by
        rw [Turn.deeds, hfind, openPoints_eq hes]
      rw [hdeeds]
      exact advances_drop_transaction srv hw hes hclient
    | _ => cases htarget
  | _ => cases htarget

theorem advances_of_savePoint {q : SavePoint} (hw : Numbered w.entities w.next)
    (hes : family k w.entities = members k t (xs ++ (n, q) :: ys))
    (hclient : ∀ x ∈ xs ++ (n, q) :: ys, x.2.generation = t.generation)
    (htarget : turn.target? = some n) :
    (running t ((xs ++ (n, q) :: ys).map Prod.snd)).Advances k (turn.deeds w) w
      (turn.take (recorded srv) a w).2 := by
  have hmem := savePoint_mem hes (List.mem_append_right xs List.mem_cons_self)
  have hfind := find?_of_mem hw hmem
  have htransaction : w.transaction? n = none := by
    rw [transaction?, hfind]
  have hstatement : w.statement? n = none := by
    rw [statement?, hfind]
  have hsavePoint := savePoint?_of_mem hw hmem
  have hshows := Shows.running t _ hes hclient
  cases turn with
  | perform op =>
    cases op with
    | executeStatement number =>
      cases htarget
      exact hshows.advances_withStatement hstatement _
    | insertStatement number =>
      cases htarget
      exact hshows.advances_withStatement hstatement _
    | queryStatement number =>
      cases htarget
      exact hshows.advances_withStatement hstatement _
    | finish number commit =>
      cases htarget
      have hdeeds : Turn.deeds w (.perform (.finish n commit)) = [] := by
        rw [Turn.deeds, htransaction]
        rfl
      rw [hdeeds, Turn.take, perform, finish_of_none (recorded srv) a htransaction]
      exact hshows.advances_refl
    | createSavePoint number =>
      cases htarget
      have hdeeds : Turn.deeds w (.perform (.createSavePoint n)) = [] := by
        rw [Turn.deeds, htransaction]
        rfl
      rw [hdeeds, Turn.take, perform, createSavePoint_of_none (recorded srv) a htransaction]
      exact hshows.advances_refl
    | releaseSavePoint number =>
      cases htarget
      have hdeeds : Turn.deeds w (.perform (.releaseSavePoint n)) = [.release q] := by
        rw [Turn.deeds, hsavePoint]
        rfl
      rw [hdeeds]
      exact advances_releaseSavePoint srv a hw hes hclient
    | drop number =>
      cases htarget
      have hdeeds : Turn.deeds w (.perform (.drop n)) = [.rollBack q] := by
        rw [Turn.deeds, hfind]
      rw [hdeeds]
      exact advances_drop_savePoint srv hw hes hclient
    | _ => cases htarget
  | _ => cases htarget

/-- A turn about a transaction or about one of its save points does what it calls for. -/
theorem Shows.take (h : p.Shows k (family k w.entities)) (hw : Numbered w.entities w.next)
    (hconcerns : turn.concerns k w = true) :
    p.Advances k (turn.deeds w) w (turn.take (recorded srv) a w).2 := by
  obtain ⟨n, htarget, hmember⟩ := (Option.any_eq_true _ _).1 hconcerns
  obtain ⟨e, hfind, hroot⟩ := (Option.any_eq_true _ _).1 hmember
  have hmem : (n, e) ∈ family k w.entities :=
    mem_family.2 ⟨mem_of_lookup hfind, beq_iff_eq.1 hroot⟩
  generalize hes : family k w.entities = es at h hmem
  cases h with
  | closed t => cases hmem
  | running t qs heq hclient =>
    subst heq
    rcases of_mem_members hmem with ⟨rfl, -⟩ | ⟨xs, q, ys, rfl, -⟩
    · exact advances_of_transaction srv a hw hes hclient htarget
    · exact advances_of_savePoint srv a hw hes hclient htarget

end Turns

end TransactionPhase

end MariaClient
