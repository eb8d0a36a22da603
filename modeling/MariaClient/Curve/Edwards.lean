import MariaClient.Curve.Repeated
import MariaClient.Digest.Sha512

/-!
# Points on an Edwards curve

The curve of Ed25519, −x² + y² = 1 + d·x²·y² over the numbers modulo a prime, the addition of its
points, and the public key that a seed gives.
-/

namespace MariaClient.Curve.Edwards

open Wire

/-- The numbers are taken modulo this prime. -/
def prime : Nat := 2 ^ 255 - 19

/-- The factor in the equation of the curve: −121665 divided by 121666. -/
def factor : Nat :=
  0x52036cee2b6ffe738cc740797779e89800700a4d4141d8ab75eb4dca135978a3

/-- The point from which the others are made. -/
def base : Nat × Nat :=
  (0x216936d3cd6e53fec0a4e231fdd6dc5c692cc7609525a7b2c9562d608f25d51a,
    0x6666666666666666666666666666666666666666666666666666666666666658)

/-- The sum of two points.  One inverse serves both quotients. -/
def add (a b : Nat × Nat) : Nat × Nat :=
  let p := prime
  let (x, y) := a
  let (x', y') := b
  let t := factor * (x * x' % p * (y * y' % p) % p) % p
  let shared := inverse p (minus p 1 (t * t % p))
  ((x * y' + y * x') % p * (minus p 1 t * shared % p) % p,
    (y * y' + x * x') % p * ((1 + t) * shared % p) % p)

/-- The point as bytes: the second coordinate, with the parity of the first in the highest bit. -/
def encodePoint (a : Nat × Nat) : Bytes :=
  toLE 32 (a.2 + a.1 % 2 * 2 ^ 255)

/-- The number that the first half of a digest stands for: a multiple of eight whose highest bit is
that for 2 to the power of 254. -/
def secret (digest : Bytes) : Nat :=
  2 ^ 254 + ofLE (digest.take 32) % 2 ^ 254 / 8 * 8

/-- The public key that belongs to a seed. -/
def publicKey (seed : Bytes) : Bytes :=
  encodePoint (repeated add (0, 1) base (secret (Digest.Sha512.digest seed)))

end MariaClient.Curve.Edwards
