import MariaClient.Curve.Repeated

/-!
# Points on curves in short form

The curves y² = x³ − 3x + b over the numbers modulo a prime, and the addition of their points.
-/

namespace MariaClient.Curve

/-- A curve with a point on it from which the others are made.  `size` is the number of bytes of a
coordinate. -/
structure Weierstrass where
  size : Nat
  prime : Nat
  order : Nat
  baseX : Nat
  baseY : Nat
  deriving DecidableEq, Repr

/-- A point, or nothing for the one at infinity. -/
abbrev Point := Option (Nat × Nat)

namespace Weierstrass

/-- The curve P-256. -/
def p256 : Weierstrass where
  size := 32
  prime := 2 ^ 256 - 2 ^ 224 + 2 ^ 192 + 2 ^ 96 - 1
  order := 0xffffffff00000000ffffffffffffffffbce6faada7179e84f3b9cac2fc632551
  baseX := 0x6b17d1f2e12c4247f8bce6e563a440f277037d812deb33a0f4a13945d898c296
  baseY := 0x4fe342e2fe1a7f9b8ee7eb4a7c0f9e162bce33576b315ececbb6406837bf51f5

/-- The curve P-384. -/
def p384 : Weierstrass where
  size := 48
  prime := 2 ^ 384 - 2 ^ 128 - 2 ^ 96 + 2 ^ 32 - 1
  order := 2 ^ 384 - 0x389cb27e0bc8d220a7e5f24db74f58851313e695333ad68d
  baseX := 0xaa87ca22be8b05378eb1c71ef320ad746e1d3b628ba79b98 * 2 ^ 192 +
    0x59f741e082542a385502f25dbf55296c3a545e3872760ab7
  baseY := 0x3617de4a96262c6f5d9e98bf9292dc29f8f41dbd289a147c * 2 ^ 192 +
    0xe9da3113b5f0b8c00a60b1ce1d7e819d7a431d7c90ea0e5f

variable (c : Weierstrass)

/-- The slope of the line through two points, or of the tangent if they are the same. -/
def slope (x y x' y' : Nat) : Nat :=
  let p := c.prime
  if x = x' then minus p (3 * x * x) 3 * inverse p (2 * y) % p
  else minus p y' y * inverse p (minus p x' x) % p

/-- The sum of two points: the third point on the line through them, mirrored. -/
def add : Point → Point → Point
  | none, q => q
  | q, none => q
  | some (x, y), some (x', y') =>
    let p := c.prime
    if x = x' ∧ (y + y') % p = 0 then none
    else
      let s := c.slope x y x' y'
      let third := minus p (minus p (s * s) x) x'
      some (third, minus p (s * minus p x third) y)

/-- A multiple of the base. -/
def multiple (n : Nat) : Point :=
  repeated c.add none (some (c.baseX, c.baseY)) n

end Weierstrass

end MariaClient.Curve
