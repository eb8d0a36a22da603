import MariaClient.Proofs.Session.Reports
import MariaClient.Session.Script

/-!
# Broken clients that are asked again

The clean-up after something that is dropped forgets the error of its request and leaves the client
in use, which the operations that answer their callers never do.  A session may therefore ask a
broken client again, and `reuse_iff_undisturbed` says when: exactly if a clean-up broke it.
-/

namespace MariaClient

variable {σ α : Type} (srv : Server σ) (a : Account)

/-! ## Clean-ups -/

namespace Entity

/-- The generation of the client that knows something. -/
def generation : Entity → Nat
  | .statement s => s.generation
  | .transaction t => t.generation
  | .savePoint _ p => p.generation

/-- The request that a client gets when something is dropped. -/
def farewell : Entity → Request
  | .statement s => .closeStatement s.id
  | .transaction _ => .query (Transaction.endSql false)
  | .savePoint _ p => .query p.rollbackSql

end Entity

namespace Workspace

theorem cleanUp_eq_quietly (e : Entity) (l : Link σ) :
    cleanUp srv e l = Connection.quietly srv e.generation e.farewell l := by
  cases e <;> rfl

/-- The error by which a client answers the clean-up of something. -/
def cleanUpError (e : Entity) (l : Link σ) : Option Error :=
  if Connection.alive e.generation l then failure? (srv.ask e.farewell l.server).1 else none

/-- None of these clean-ups breaks the client. -/
def spared : List (Nat × Entity) → Link σ → Bool
  | [], _ => true
  | (_, e) :: es, l => !breaks (cleanUpError srv e l) && spared es (cleanUp srv e l)

/-- What an operation drops. -/
def dropped : Operation → Workspace σ → List (Nat × Entity)
  | .drop number, w => w.entities.filter fun (n, e) ↦ n == number || ownedBy number e
  | .finish number _, w =>
    if (w.transaction? number).isSome then w.entities.filter fun (_, e) ↦ ownedBy number e else []
  | _, _ => []

/-- No clean-up breaks a client while these operations are performed. -/
def undisturbed : List Operation → Workspace σ → Bool
  | [], _ => true
  | op :: ops, w => spared srv (dropped op w) w.link && undisturbed ops (perform srv a op w).2

/-- What happens to the clients of a session while it performs these operations. -/
def historyOf (ops : List Operation) (s : σ) : History :=
  (performAll (recorded srv) a ops (start a (s, []))).2.link.server.2

end Workspace

namespace View

open Workspace

/-- A state that is not sound has asked a broken client, or has one in use. -/
theorem not_sound_iff {τ : Type} {v : View τ} {t : τ} :
    ¬ v.Sound t ↔
      (v.history t).reused = true ∨ v.live t = true ∧ (v.history t).broken = true := by
  constructor
  · intro h
    by_cases hr : (v.history t).reused = true
    · exact .inl hr
    · refine .inr ?_
      by_cases hb : v.live t = true ∧ (v.history t).broken = true
      · exact hb
      · exact absurd ⟨by simpa using hr, fun hl ↦ by simpa [hl] using hb⟩ h
  · rintro (hr | ⟨hl, hb⟩) h
    · simp [h.kept] at hr
    · simp [h.whole hl] at hb

/-- A clean-up keeps a session sound unless it breaks the client. -/
theorem cleanUp_sound (e : Entity) {l : Link (σ × History)} (hl : link.Sound l)
    (he : breaks (cleanUpError (recorded srv) e l) = false) :
    link.Sound (cleanUp (recorded srv) e l) := by
  rw [cleanUp_eq_quietly, Connection.quietly]
  by_cases h : Connection.alive e.generation l = true
  · rw [if_pos h]
    rw [cleanUpError, if_pos h] at he
    have hc : l.session.connected = true := (Bool.and_eq_true_iff.1 h).1
    rcases onServer_sound (reports_ask srv e.farewell) hl hc with hs | ⟨-, err, herr, hb⟩
    · exact hs
    · change ((recorded srv).ask e.farewell l.server).1 = _ at herr
      rw [herr] at he
      exact absurd hb (by simpa [breaks, failure?] using he)
  · rwa [if_neg h]

/-- A clean-up that breaks the client leaves it in use. -/
theorem cleanUp_breaks (e : Entity) {l : Link (σ × History)}
    (he : breaks (cleanUpError (recorded srv) e l) = true) :
    ¬ link.Sound (cleanUp (recorded srv) e l) := by
  rw [cleanUp_eq_quietly, Connection.quietly, not_sound_iff]
  by_cases h : Connection.alive e.generation l = true
  · rw [if_pos h]
    rw [cleanUpError, if_pos h] at he
    refine .inr ⟨(Bool.and_eq_true_iff.1 h).1, ?_⟩
    change (breaks (failure? ((recorded srv).ask e.farewell l.server).1) || _) = true
    simp [he]
  · rw [cleanUpError, if_neg h] at he
    cases he

/-- What is not sound is not mended by a clean-up. -/
theorem cleanUp_not_sound (e : Entity) {l : Link (σ × History)} (hl : ¬ link.Sound l) :
    ¬ link.Sound (cleanUp (recorded srv) e l) := by
  rw [cleanUp_eq_quietly, Connection.quietly]
  by_cases h : Connection.alive e.generation l = true
  · rw [if_pos h]
    rw [not_sound_iff] at hl ⊢
    refine .inl ?_
    change (l.server.2.broken || l.server.2.reused) = true
    rcases hl with hr | ⟨-, hb⟩
    · simp [show l.server.2.reused = true from hr]
    · simp [show l.server.2.broken = true from hb]
  · rwa [if_neg h]

/-- Clean-ups keep a session sound exactly if none of them breaks the client. -/
theorem spared_iff (es : List (Nat × Entity)) {l : Link (σ × History)} (hl : link.Sound l) :
    spared (recorded srv) es l = true ↔
      link.Sound (es.foldl (fun l (_, e) ↦ cleanUp (recorded srv) e l) l) := by
  have hspoilt (es : List (Nat × Entity)) : ∀ {l : Link (σ × History)}, ¬ link.Sound l →
      ¬ link.Sound (es.foldl (fun l (_, e) ↦ cleanUp (recorded srv) e l) l) := by
    induction es with
    | nil => exact id
    | cons e es ih => exact fun hl ↦ ih (cleanUp_not_sound srv e.2 hl)
  induction es generalizing l with
  | nil => exact iff_of_true rfl hl
  | cons e es ih =>
    rw [spared, List.foldl_cons]
    cases he : breaks (cleanUpError (recorded srv) e.2 l) with
    | false => simpa using ih (cleanUp_sound srv e.2 hl he)
    | true => exact iff_of_false (by simp) (hspoilt es (cleanUp_breaks srv e.2 he))

/-! ## Steps on a client that is broken -/

/-- A step on a client that begins with a request. -/
def Asks (x : Attempt (σ × History) α) : Prop :=
  ∀ t, t.2.broken = true → (x t).2.2.reused = true

theorem asks_ask (r : Request) : Asks ((recorded srv).ask r) := by
  intro t ht
  change (t.2.broken || t.2.reused) = true
  simp [ht]

theorem Asks.bind {β : Type} {x : Attempt (σ × History) α} {f : α → Attempt (σ × History) β}
    (hx : Asks x) (hf : ∀ b, client.Reports (f b)) : Asks (x >>= f) := by
  intro t ht
  have hr := hx t ht
  rcases hb : x t with ⟨e | b, t'⟩
  · rw [Attempt.bind_apply_error hb]
    rwa [hb] at hr
  · rw [Attempt.bind_apply_ok hb]
    rw [hb] at hr
    exact (hf b).reused (t := t') hr

/-- A session that is not sound stays so when a client of an old generation is asked, and asks a
broken one if the generation is the present one. -/
theorem runIn_not_sound (generation : Nat) (neutral : Option α) {x : Attempt (σ × History) α}
    (hx : client.Reports x) (hasks : Asks x) {l : Link (σ × History)} (hl : ¬ link.Sound l) :
    ¬ link.Sound (Connection.runIn (recorded srv) a generation neutral x l).2 := by
  rw [not_sound_iff] at hl ⊢
  rcases hl with hr | ⟨hc, hb⟩
  · exact .inl ((keeps_runIn srv a generation neutral hx).reused hr)
  · rw [Connection.runIn, settled_apply, Connection.within]
    by_cases h : Connection.alive generation l = true
    · rw [if_pos h]
      exact .inl ((settle_reused srv a neutral _ _).trans (hasks _ hb))
    · rw [if_neg h]
      exact .inr ⟨hc, hb⟩

/-- A ping tells whether a session was sound. -/
theorem ping_reused_iff (l : Link (σ × History)) :
    (Connection.ping (recorded srv) a l).2.server.2.reused = false ↔ link.Sound l := by
  constructor
  · intro h
    by_cases hl : link.Sound l
    · exact hl
    · refine absurd ?_ (Bool.eq_false_iff.1 h)
      rcases not_sound_iff.1 hl with hr | ⟨hc, hb⟩
      · exact (keeps_ping srv a).reused hr
      · have hping := Asks.bind (asks_ask srv .ping) fun _ ↦ (keeps_pure true).reports
        have hopen : Connection.open? (recorded srv) a l = (.ok (), l) := if_pos hc
        rw [Connection.ping, Connection.run, settled_apply, Attempt.bind_apply_ok hopen]
        exact (settle_reused srv a _ _ _).trans (hping _ hb)
  · exact fun hl ↦ ((keeps_ping srv a).sound hl).kept

/-! ## Operations -/

theorem workspace_sound_iff {w : Workspace (σ × History)} :
    workspace.Sound w ↔ link.Sound w.link :=
  ⟨fun h ↦ ⟨h.kept, h.whole⟩, fun h ↦ ⟨h.kept, h.whole⟩⟩

theorem keeps_onLink {x : Attempt (Link (σ × History)) α} (hx : link.Keeps x) :
    workspace.Keeps (onLink x) where
  sound hw := workspace_sound_iff.2 (hx.sound (workspace_sound_iff.1 hw))
  reused hw := hx.reused hw

theorem keeps_add (e : Entity) :
    workspace.Keeps (add e : Attempt (Workspace (σ × History)) Outcome) where
  sound hw := ⟨hw.kept, hw.whole⟩
  reused hw := hw

theorem keeps_withStatement (number : Nat)
    {x : Statement → Attempt (Link (σ × History)) Outcome} (hx : ∀ s, link.Keeps (x s)) :
    workspace.Keeps (withStatement number x) where
  sound {w} hw := by
    unfold withStatement
    split
    · exact (keeps_onLink (hx _)).sound hw
    · exact hw
  reused {w} hw := by
    unfold withStatement
    split
    · exact (keeps_onLink (hx _)).reused hw
    · exact hw

theorem keeps_setParam (number index : Nat) (value : Param) :
    workspace.Keeps
      (setParam number index value : Attempt (Workspace (σ × History)) Outcome) where
  sound {w} hw := by
    unfold setParam
    split
    · split
      · exact ⟨hw.kept, hw.whole⟩
      · exact hw
    · exact hw
  reused {w} hw := by
    unfold setParam
    split
    · split
      · exact hw
      · exact hw
    · exact hw

theorem createSavePoint_sound (number : Nat) {w : Workspace (σ × History)}
    (hw : workspace.Sound w) :
    workspace.Sound (createSavePoint (recorded srv) a number w).2 := by
  unfold createSavePoint
  split
  · exact ((keeps_onLink (keeps_create srv a _)).bind fun _ ↦ keeps_add _).sound
      ⟨hw.kept, hw.whole⟩
  · exact hw

theorem releaseSavePoint_sound (number : Nat) {w : Workspace (σ × History)}
    (hw : workspace.Sound w) :
    workspace.Sound (releaseSavePoint (recorded srv) a number w).2 := by
  unfold releaseSavePoint
  split
  · exact (keeps_onLink ((keeps_release srv a _).bind fun _ ↦ keeps_pure _)).sound
      ⟨hw.kept, hw.whole⟩
  · exact hw

/-- Turning the outcome of a step into another value leaves the state as it is. -/
theorem bind_pure_state {τ β : Type} (x : Attempt τ α) (f : α → β) (t : τ) :
    ((do return f (← x) : Attempt τ β) t).2 = (x t).2 := by
  rcases hx : x t with ⟨e | r, t'⟩
  · rw [Attempt.bind_apply_error hx]
  · rw [Attempt.bind_apply_ok hx]
    rfl

/-- The end of a transaction keeps a workspace sound exactly if the clean-ups after its save points
do. -/
theorem finish_sound_iff (number : Nat) (commit : Bool) {w : Workspace (σ × History)}
    (hw : workspace.Sound w) :
    spared (recorded srv) (dropped (.finish number commit) w) w.link = true ↔
      workspace.Sound (finish (recorded srv) a number commit w).2 := by
  unfold finish
  split
  next t ht =>
    have hasks : Asks (do
        discard ((recorded srv).ask (.query (Transaction.endSql commit)))
        return true) :=
      ((asks_ask srv _).bind fun _ ↦ (keeps_pure _).reports).bind fun _ ↦ (keeps_pure _).reports
    rw [dropped, ht, Option.isSome_some, if_pos rfl,
      spared_iff srv _ (workspace_sound_iff.1 hw), workspace_sound_iff]
    change _ ↔ link.Sound ((do return Outcome.flag (← t.finish (recorded srv) a commit)) _).2
    rw [bind_pure_state]
    constructor
    · exact fun h ↦ (keeps_finish srv a t commit).sound h
    · intro h
      by_cases hl : link.Sound ((w.entities.filter fun (_, e) ↦ ownedBy number e).foldl
          (fun l (_, e) ↦ cleanUp (recorded srv) e l) w.link)
      · exact hl
      · exact absurd h
          (runIn_not_sound srv a t.generation (some false) (reports_flag srv _) hasks hl)
  next ht =>
    rw [dropped, if_neg (by simpa using ht)]
    exact iff_of_true rfl hw

theorem drop_sound_iff (number : Nat) {w : Workspace (σ × History)} (hw : workspace.Sound w) :
    spared (recorded srv) (dropped (.drop number) w) w.link = true ↔
      workspace.Sound (dropEntity (recorded srv) number w) := by
  rw [spared_iff srv _ (workspace_sound_iff.1 hw), workspace_sound_iff]
  rfl

/-- An operation keeps a workspace sound exactly if none of its clean-ups breaks the client. -/
theorem perform_sound_iff (op : Operation) {w : Workspace (σ × History)} (hw : workspace.Sound w) :
    spared (recorded srv) (dropped op w) w.link = true ↔
      workspace.Sound (perform (recorded srv) a op w).2 := by
  have hlink {β : Type} {x : Attempt (Link (σ × History)) β} (hx : link.Keeps x)
      (f : β → Outcome) : workspace.Sound (onLink (do return f (← x)) w).2 :=
    (keeps_onLink (hx.bind fun _ ↦ keeps_pure _)).sound hw
  have hstatement {β : Type} {x : Statement → Attempt (Link (σ × History)) β}
      (hx : ∀ s, link.Keeps (x s)) (f : β → Outcome) (number : Nat) :
      workspace.Sound (withStatement number (fun s ↦ do return f (← x s)) w).2 :=
    (keeps_withStatement number fun s ↦ (hx s).bind fun _ ↦ keeps_pure _).sound hw
  have hadd {β : Type} {x : Attempt (Link (σ × History)) β} (hx : link.Keeps x)
      (f : β → Entity) : workspace.Sound ((do add (f (← onLink x))) w).2 :=
    ((keeps_onLink hx).bind fun _ ↦ keeps_add _).sound hw
  cases op with
  | connect => exact iff_of_true rfl (hlink (keeps_connect srv a) _)
  | disconnect => exact iff_of_true rfl (workspace_sound_iff.2 (disconnect_sound srv hw.kept))
  | ping => exact iff_of_true rfl (hlink (keeps_ping srv a) _)
  | setSchema schema => exact iff_of_true rfl (hlink (keeps_setSchema srv a schema) _)
  | setAutoCommit on => exact iff_of_true rfl (hlink (keeps_setAutoCommit srv a on) _)
  | execute sql => exact iff_of_true rfl (hlink (keeps_execute srv a sql) _)
  | insert sql => exact iff_of_true rfl (hlink (keeps_insert srv a sql) _)
  | query sql => exact iff_of_true rfl (hlink (keeps_query srv a sql) _)
  | prepare sql => exact iff_of_true rfl (hadd (keeps_prepare srv a sql) _)
  | setParam number index value =>
    exact iff_of_true rfl ((keeps_setParam number index value).sound hw)
  | executeStatement number =>
    exact iff_of_true rfl (hstatement (keeps_statementExecute srv a) _ number)
  | insertStatement number =>
    exact iff_of_true rfl (hstatement (keeps_statementInsert srv a) _ number)
  | queryStatement number =>
    exact iff_of_true rfl (hstatement (keeps_statementQuery srv a) _ number)
  | start isolation snapshot =>
    exact iff_of_true rfl (hadd (keeps_start srv a isolation snapshot) _)
  | finish number commit => exact finish_sound_iff srv a number commit hw
  | createSavePoint number => exact iff_of_true rfl (createSavePoint_sound srv a number hw)
  | releaseSavePoint number => exact iff_of_true rfl (releaseSavePoint_sound srv a number hw)
  | drop number => exact drop_sound_iff srv number hw

end View

/-! ## Runs -/

namespace Workspace

open View

theorem performAll_append (ops ops' : List Operation) (w : Workspace σ) :
    (performAll srv a (ops ++ ops') w).2 =
      (performAll srv a ops' (performAll srv a ops w).2).2 := by
  induction ops generalizing w with
  | nil => rfl
  | cons op ops ih => exact ih _

/-- The workspaces on the way are sound exactly if no clean-up breaks a client. -/
theorem undisturbed_iff (ops : List Operation) {w : Workspace (σ × History)}
    (hw : workspace.Sound w) :
    undisturbed (recorded srv) a ops w = true ↔
      ∀ done, done <+: ops → workspace.Sound (performAll (recorded srv) a done w).2 := by
  induction ops generalizing w with
  | nil =>
    refine iff_of_true rfl fun done hdone ↦ ?_
    rw [List.prefix_nil.1 hdone]
    exact hw
  | cons op ops ih =>
    rw [undisturbed, Bool.and_eq_true, perform_sound_iff srv a op hw]
    constructor
    · rintro ⟨hop, hops⟩ done hdone
      rcases List.prefix_cons_iff.1 hdone with rfl | ⟨rest, rfl, hrest⟩
      · exact hw
      · exact (ih hop).1 hops rest hrest
    · intro h
      have hop : workspace.Sound (perform (recorded srv) a op w).2 :=
        h [op] (List.cons_prefix_cons.2 ⟨rfl, List.nil_prefix⟩)
      refine ⟨hop, (ih hop).2 fun done hdone ↦ ?_⟩
      exact h (op :: done) (List.cons_prefix_cons.2 ⟨rfl, hdone⟩)

/-- Whatever the operations of a run are, in any order and with any answers: no broken client is
asked again, neither in the run nor by a ping at any point of it, exactly if no clean-up after
something that was dropped breaks its client. -/
theorem reuse_iff_undisturbed (ops : List Operation) (s : σ) :
    (∀ done, done <+: ops → (historyOf srv a (done ++ [.ping]) s).reused = false) ↔
      undisturbed (recorded srv) a ops (start a (s, [])) = true := by
  have hstart : workspace.Sound (start a (s, []) : Workspace (σ × History)) := ⟨rfl, nofun⟩
  rw [undisturbed_iff srv a ops hstart]
  refine forall_congr' fun done ↦ imp_congr_right fun _ ↦ ?_
  rw [historyOf, performAll_append, workspace_sound_iff, ← ping_reused_iff srv a]
  change ((do return Outcome.flag (← Connection.ping (recorded srv) a)) _).2.server.2.reused = _ ↔ _
  rw [bind_pure_state]

/-- The stream ends while a dropped statement is closed, and the same client is then pinged. -/
theorem reused_after_closeStatement :
    (historyOf Script.server {} [.prepare "SELECT 1", .drop 1, .ping]
      { closes := [some (.io .endOfStream)] }).reused = true := by
  decide

end Workspace

end MariaClient
