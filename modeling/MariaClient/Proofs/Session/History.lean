import MariaClient.Session.Workspace

/-!
# Histories of clients

A server can be watched: `recorded` is the same server, and notes beside its state which clients
were connected, what each of them was asked and how it answered, and when it was closed.  Whatever
holds of all histories of a recorded server holds of what a session does to its clients.

An answer that is an I/O or a protocol error leaves a client at an unknown point of its stream, and
that client is *broken*.  A history in which a broken client is asked again is *reused*.
-/

namespace MariaClient

/-- What happened to the clients of a session.  A client that could not be connected is none. -/
inductive Event
  | connected
  | answered (r : Request) (failure : Option Error)
  | closed
  deriving DecidableEq, Repr

/-- What happened so far, the newest event first. -/
abbrev History := List Event

/-- The error of an outcome. -/
def failure? {α : Type} : Except Error α → Option Error
  | .ok _ => none
  | .error e => some e

/-- A server that notes what happens to its clients. -/
def recorded {σ : Type} (srv : Server σ) : Server (σ × History) where
  connect a := fun (s, h) ↦
    let (r, s) := srv.connect a s
    (r, s, if r.isOk then .connected :: h else h)
  ask request := fun (s, h) ↦
    let (r, s) := srv.ask request s
    (r, s, .answered request (failure? r) :: h)
  close := fun (s, h) ↦ (srv.close s, .closed :: h)

section Recorded

variable {σ : Type} {srv : Server σ} {a : Account} {s t : σ} {h : History}

theorem recorded_connect_ok {version : String} (hc : srv.connect a s = (.ok version, t)) :
    (recorded srv).connect a (s, h) = (.ok version, t, .connected :: h) := by
  simp [recorded, hc, Except.isOk, Except.toBool]

theorem recorded_connect_error {e : Error} (hc : srv.connect a s = (.error e, t)) :
    (recorded srv).connect a (s, h) = (.error e, t, h) := by
  simp [recorded, hc, Except.isOk, Except.toBool]

theorem recorded_ask (r : Request) :
    (recorded srv).ask r (s, h) =
      ((srv.ask r s).1, (srv.ask r s).2, .answered r (failure? (srv.ask r s).1) :: h) := rfl

@[simp] theorem recorded_close : (recorded srv).close (s, h) = (srv.close s, .closed :: h) := rfl

end Recorded

/-- An answer breaks the client that gave it. -/
def breaks (failure : Option Error) : Bool :=
  failure.any Error.breaksConnection

namespace History

/-- The newest client has given an answer that broke it. -/
def broken : History → Bool
  | .answered _ failure :: h => breaks failure || broken h
  | .closed :: h => broken h
  | _ => false

/-- A client was asked again after it was broken. -/
def reused : History → Bool
  | .answered .. :: h => broken h || reused h
  | _ :: h => reused h
  | [] => false

@[simp] theorem broken_answered (r : Request) (failure : Option Error) (h : History) :
    broken (.answered r failure :: h) = (breaks failure || broken h) := rfl

@[simp] theorem broken_closed (h : History) : broken (.closed :: h) = broken h := rfl

@[simp] theorem broken_connected (h : History) : broken (.connected :: h) = false := rfl

@[simp] theorem reused_answered (r : Request) (failure : Option Error) (h : History) :
    reused (.answered r failure :: h) = (broken h || reused h) := rfl

@[simp] theorem reused_closed (h : History) : reused (.closed :: h) = reused h := rfl

@[simp] theorem reused_connected (h : History) : reused (.connected :: h) = reused h := rfl

end History

/-! ## States with a history

Steps act on a client, on a session or on a workspace.  Each of these states shows a history, and
whether the newest client is still in use. -/

/-- How a state shows its history. -/
structure View (τ : Type) where
  live : τ → Bool
  history : τ → History

namespace View

variable {σ τ α β : Type} {v : View τ}

/-- A client in use. -/
def client : View (σ × History) where
  live _ := true
  history := Prod.snd

/-- A session, which may be without a client. -/
def link : View (Link (σ × History)) where
  live l := l.session.connected
  history l := l.server.2

/-- The session of a workspace. -/
def workspace : View (Workspace (σ × History)) where
  live w := w.link.session.connected
  history w := w.link.server.2

/-- No broken client was asked again, and none is in use. -/
structure Sound (v : View τ) (t : τ) : Prop where
  kept : (v.history t).reused = false
  whole : v.live t = true → (v.history t).broken = false

/-- A step that asks no broken client.  If it leaves one in use it says so by its error.  What was
asked before cannot be undone. -/
structure Reports (v : View τ) (x : Attempt τ α) : Prop where
  sound : ∀ {t}, v.Sound t → v.Sound (x t).2 ∨
    (v.history (x t).2).reused = false ∧ ∃ e, (x t).1 = .error e ∧ e.breaksConnection = true
  reused : ∀ {t}, (v.history t).reused = true → (v.history (x t).2).reused = true

/-- A step that asks no broken client and leaves none in use. -/
structure Keeps (v : View τ) (x : Attempt τ α) : Prop where
  sound : ∀ {t}, v.Sound t → v.Sound (x t).2
  reused : ∀ {t}, (v.history t).reused = true → (v.history (x t).2).reused = true

theorem Keeps.reports {x : Attempt τ α} (h : v.Keeps x) : v.Reports x where
  sound ht := .inl (h.sound ht)
  reused := h.reused

theorem keeps_pure (a : α) : v.Keeps (pure a : Attempt τ α) where
  sound ht := ht
  reused ht := ht

/-- What follows a failed step is not performed, and the error stays. -/
theorem Reports.bind {x : Attempt τ α} {f : α → Attempt τ β} (hx : v.Reports x)
    (hf : ∀ a, v.Reports (f a)) : v.Reports (x >>= f) where
  sound {t} ht := by
    have h := hx.sound ht
    rcases hr : x t with ⟨e | a, t'⟩
    · rw [Attempt.bind_apply_error hr]
      rw [hr] at h
      rcases h with h | ⟨hr, _, he, hb⟩
      · exact .inl h
      · cases he
        exact .inr ⟨hr, e, rfl, hb⟩
    · rw [Attempt.bind_apply_ok hr]
      rw [hr] at h
      rcases h with h | ⟨-, _, he, -⟩
      · exact (hf a).sound h
      · cases he
  reused {t} ht := by
    have h := hx.reused ht
    rcases hr : x t with ⟨e | a, t'⟩
    · rw [Attempt.bind_apply_error hr]
      rwa [hr] at h
    · rw [Attempt.bind_apply_ok hr]
      rw [hr] at h
      exact (hf a).reused h

theorem Keeps.bind {x : Attempt τ α} {f : α → Attempt τ β} (hx : v.Keeps x)
    (hf : ∀ a, v.Keeps (f a)) : v.Keeps (x >>= f) where
  sound {t} ht := by
    have h := hx.sound ht
    rcases hr : x t with ⟨e | a, t'⟩
    · rw [Attempt.bind_apply_error hr]
      rwa [hr] at h
    · rw [Attempt.bind_apply_ok hr]
      rw [hr] at h
      exact (hf a).sound h
  reused := (hx.reports.bind fun a ↦ (hf a).reports).reused

theorem Reports.ite {c : Prop} [Decidable c] {x y : Attempt τ α} (hx : v.Reports x)
    (hy : v.Reports y) : v.Reports (if c then x else y) := by
  by_cases h : c
  · rwa [if_pos h]
  · rwa [if_neg h]

theorem Keeps.ite {c : Prop} [Decidable c] {x y : Attempt τ α} (hx : v.Keeps x)
    (hy : v.Keeps y) : v.Keeps (if c then x else y) := by
  by_cases h : c
  · rwa [if_pos h]
  · rwa [if_neg h]

/-- A change that the view does not show. -/
theorem keeps_update {f : τ → τ} (hlive : ∀ t, v.live (f t) = v.live t)
    (hhistory : ∀ t, v.history (f t) = v.history t) : v.Keeps (Attempt.update f) where
  sound {t} ht := by
    refine ⟨?_, fun hl ↦ ?_⟩
    · exact (congrArg History.reused (hhistory t)).trans ht.kept
    · exact (congrArg History.broken (hhistory t)).trans (ht.whole ((hlive t).symm.trans hl))
  reused {t} ht := (congrArg History.reused (hhistory t)).trans ht

theorem keeps_state : v.Keeps (Attempt.state : Attempt τ τ) where
  sound ht := ht
  reused ht := ht

end View

end MariaClient
