import MariaClient.Numbers

/-!
# Repeated operations

An operation applied to one value many times, by halving the number of times.  `repeated_eq` says
that this is the same as applying it one time after the other, if the operation is associative.
-/

namespace MariaClient.Curve

variable {α : Type}

/-- The value `a` joined with itself so many times. -/
def repeated (op : α → α → α) (unit a : α) (times : Nat) : α :=
  if times = 0 then unit
  else
    let rest := repeated op unit (op a a) (times / 2)
    if times % 2 = 1 then op a rest else rest
termination_by times

/-- The value `a` joined with itself so many times, one time after the other. -/
def folded (op : α → α → α) (unit a : α) : Nat → α
  | 0 => unit
  | times + 1 => op a (folded op unit a times)

theorem folded_double {op : α → α → α} {unit : α} (assoc : ∀ x y z, op (op x y) z = op x (op y z))
    (a : α) (times : Nat) : folded op unit (op a a) times = folded op unit a (2 * times) := by
  induction times with
  | zero => rfl
  | succ times ih =>
    have two : 2 * (times + 1) = 2 * times + 1 + 1 := by omega
    rw [two]
    simp only [folded]
    rw [ih, assoc]

theorem repeated_eq {op : α → α → α} {unit : α} (assoc : ∀ x y z, op (op x y) z = op x (op y z))
    (a : α) (times : Nat) : repeated op unit a times = folded op unit a times := by
  induction times using Nat.strongRecOn generalizing a with
  | ind times ih =>
    unfold repeated
    by_cases zero : times = 0
    · simp [zero, folded]
    · have half : times / 2 < times := by omega
      rw [if_neg zero]
      simp only [ih _ half, folded_double assoc]
      by_cases odd : times % 2 = 1
      · have split : times = 2 * (times / 2) + 1 := by omega
        have next : op a (folded op unit a (2 * (times / 2))) =
            folded op unit a (2 * (times / 2) + 1) := rfl
        rw [if_pos odd, next, ← split]
      · have split : times = 2 * (times / 2) := by omega
        rw [if_neg odd, ← split]

/-! ## Numbers modulo a prime -/

/-- The power of a number modulo `p`. -/
def power (p a n : Nat) : Nat :=
  repeated (fun x y ↦ x * y % p) 1 (a % p) n

/-- The number that gives one modulo a prime `p` when it is multiplied with `a`, which is no
multiple of `p`: the power of `a` that is one less than the one which is one. -/
def inverse (p a : Nat) : Nat :=
  power p a (p - 2)

/-- The difference of two numbers modulo `p`, the second of which is not above `p`. -/
def minus (p a b : Nat) : Nat :=
  (a + (p - b)) % p

end MariaClient.Curve
