import MariaClient.Error

/-!
# Steps that may fail

A step on a state gives a value or an error and leaves a state behind in either case: what was
done before a failure stays done.
-/

namespace MariaClient

/-- A step on a state that gives a value or an error. -/
def Attempt (σ α : Type) : Type :=
  σ → Except Error α × σ

namespace Attempt

variable {σ α β : Type}

/-- Does nothing. -/
protected def pure (a : α) : Attempt σ α :=
  fun s ↦ (.ok a, s)

/-- Goes on from the state that a step left behind, unless it failed. -/
protected def bind (x : Attempt σ α) (f : α → Attempt σ β) : Attempt σ β := fun s ↦
  match x s with
  | (.ok a, s) => f a s
  | (.error e, s) => (.error e, s)

instance : Monad (Attempt σ) where
  pure := Attempt.pure
  bind := Attempt.bind

@[simp] theorem pure_apply (a : α) (s : σ) : (pure a : Attempt σ α) s = (.ok a, s) := rfl

theorem bind_apply (x : Attempt σ α) (f : α → Attempt σ β) (s : σ) :
    (x >>= f) s =
      match x s with
      | (.ok a, s) => f a s
      | (.error e, s) => (.error e, s) := rfl

theorem bind_apply_ok {x : Attempt σ α} {f : α → Attempt σ β} {s t : σ} {a : α}
    (h : x s = (.ok a, t)) : (x >>= f) s = f a t := by
  simp [bind_apply, h]

theorem bind_apply_error {x : Attempt σ α} {f : α → Attempt σ β} {s t : σ} {e : Error}
    (h : x s = (.error e, t)) : (x >>= f) s = (.error e, t) := by
  simp [bind_apply, h]

theorem of_bind_ok {x : Attempt σ α} {f : α → Attempt σ β} {s t : σ} {b : β}
    (h : (x >>= f) s = (.ok b, t)) : ∃ a u, x s = (.ok a, u) ∧ f a u = (.ok b, t) := by
  rcases hx : x s with ⟨e | a, u⟩
  · rw [bind_apply_error hx] at h
    cases h
  · rw [bind_apply_ok hx] at h
    exact ⟨a, u, rfl, h⟩

/-- Fails and leaves the state alone. -/
def fail (e : Error) : Attempt σ α :=
  fun s ↦ (.error e, s)

/-- Gives a value or an error and leaves the state alone. -/
def ofExcept (r : Except Error α) : Attempt σ α :=
  fun s ↦ (r, s)

instance : MonadLift (Except Error) (Attempt σ) where
  monadLift := ofExcept

/-- The state. -/
def state : Attempt σ σ :=
  fun s ↦ (.ok s, s)

/-- Changes the state. -/
def update (f : σ → σ) : Attempt σ Unit :=
  fun s ↦ (.ok (), f s)

/-- Gives the outcome of a step as a value. -/
def outcome (x : Attempt σ α) : Attempt σ (Except Error α) := fun s ↦
  let (r, s) := x s
  (.ok r, s)

/-- What a step gives. -/
def run (x : Attempt σ α) (s : σ) : Except Error α :=
  (x s).1

end Attempt

end MariaClient
