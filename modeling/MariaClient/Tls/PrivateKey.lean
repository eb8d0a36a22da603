import MariaClient.Curve.Edwards
import MariaClient.Curve.Weierstrass
import MariaClient.Tls.Certificate
import MariaClient.Tls.Pem

/-!
# Private keys

What is read of a private key: that its parts belong together, and the public key that belongs to
it, in the form in which a certificate holds it.
-/

namespace MariaClient.Tls.PrivateKey

open Wire Der Pem Curve

/-! ## Public keys -/

/-- The name of keys for RSA. -/
def rsaName : Bytes := [0x2a, 0x86, 0x48, 0x86, 0xf7, 0x0d, 0x01, 0x01, 0x01]

/-- The name of keys on elliptic curves. -/
def curveName : Bytes := [0x2a, 0x86, 0x48, 0xce, 0x3d, 0x02, 0x01]

/-- The name of keys for Ed25519. -/
def edwardsName : Bytes := [0x2b, 0x65, 0x70]

/-- What stands in the list that names the algorithm of keys for RSA. -/
def rsaAlgorithm : Bytes :=
  encode nameTag rsaName ++ encode 0x05 []

/-- What stands in the list that names the algorithm of keys on a curve. -/
def curveAlgorithm (curve : Bytes) : Bytes :=
  encode nameTag curveName ++ encode nameTag curve

/-- What stands in the list that names the algorithm of keys for Ed25519. -/
def edwardsAlgorithm : Bytes :=
  encode nameTag edwardsName

/-- What stands in a public key: the list that names its algorithm, and the key as a run of bits. -/
def publicOf (algorithm key : Bytes) : Bytes :=
  encode listTag algorithm ++ encode bitsTag (0 :: key)

/-! ## Keys for RSA -/

/-- The number of bits of a number. -/
def bitCount (n : Nat) : Nat :=
  if n = 0 then 0 else n.log2 + 1

/-- The numbers of a key for RSA. -/
structure Rsa where
  modulus : Nat
  exponent : Nat
  secret : Nat
  p : Nat
  q : Nat
  secretP : Nat
  secretQ : Nat
  coefficient : Nat
  deriving DecidableEq, Repr

namespace Rsa

/-- The modulus is odd and has 256 to 512 bytes. -/
def fitsModulus (k : Rsa) : Bool :=
  k.modulus % 2 == 1 && 2040 < bitCount k.modulus && bitCount k.modulus ≤ 4096

/-- The exponent is odd, at least 65537 and has up to 33 bits. -/
def fitsExponent (k : Rsa) : Bool :=
  k.exponent % 2 == 1 && 65537 ≤ k.exponent && k.exponent < 2 ^ 33

/-- A prime is odd and has half the bits of the modulus, the number of which is a multiple of
512. -/
def fitsPrime (k : Rsa) (p : Nat) : Bool :=
  p % 2 == 1 && bitCount p == (bitCount k.modulus + 1) / 2 && bitCount p % 512 == 0

/-- The secret exponent is odd, below the modulus and longer than half of it. -/
def fitsSecret (k : Rsa) : Bool :=
  k.secret % 2 == 1 && k.secret < k.modulus &&
    (bitCount k.modulus + 1) / 2 < bitCount k.secret

/-- The secret exponent modulo one less than a prime is odd and below the prime. -/
def fitsPart (p secret : Nat) : Bool :=
  secret % 2 == 1 && secret < p

/-- The numbers belong together. -/
def isConsistent (k : Rsa) : Bool :=
  k.fitsModulus && k.fitsExponent && k.fitsPrime k.p && k.fitsPrime k.q &&
    k.p * k.q % k.modulus == 0 && k.fitsSecret &&
    k.coefficient < k.p && k.coefficient * k.q % k.p == 1 &&
    fitsPart k.p k.secretP && fitsPart k.q k.secretQ

/-- The bytes of a number that is not negative. -/
def numberBytes (n : Nat) : Bytes :=
  (toLE (n.log2 / 8 + 1) n ++ if n.log2 % 8 = 7 then [0] else []).reverse

/-- The public key: the modulus and the exponent. -/
def publicKey (k : Rsa) : Bytes :=
  publicOf rsaAlgorithm (encode listTag
    (encode integerTag (numberBytes k.modulus) ++ encode integerTag (numberBytes k.exponent)))

/-- Takes the numbers of a key with two primes. -/
def reader : Der Rsa := do
  if (← small) ≠ 0 then failure
  let modulus ← natural
  let exponent ← natural
  let secret ← natural
  let p ← natural
  let q ← natural
  let secretP ← natural
  let secretQ ← natural
  let coefficient ← natural
  return { modulus, exponent, secret, p, q, secretP, secretQ, coefficient }

end Rsa

/-- Takes a key for RSA and gives its public key. -/
def rsa : Der Bytes := do
  let k ← nested listTag Rsa.reader
  if k.isConsistent then return k.publicKey else failure

/-! ## Keys on elliptic curves -/

/-- The curves that keys may be on, with their names. -/
def curves : List (Bytes × Weierstrass) :=
  [([0x2a, 0x86, 0x48, 0xce, 0x3d, 0x03, 0x01, 0x07], .p256),
    ([0x2b, 0x81, 0x04, 0x00, 0x22], .p384)]

/-- A point as bytes: both coordinates behind a byte that says so, the highest bytes first. -/
def pointBytes (c : Weierstrass) (x y : Nat) : Bytes :=
  4 :: (toLE c.size x).reverse ++ (toLE c.size y).reverse

/-- The point that belongs to a secret number of as many bytes as a coordinate. -/
def pointOf (c : Weierstrass) (secret : Bytes) : Option Bytes := do
  let n := ofLE secret.reverse
  guard (secret.length = c.size ∧ 0 < n ∧ n < c.order)
  let (x, y) ← c.multiple n
  return pointBytes c x y

/-- Takes the part of a key that names its curve, if it has one. -/
def curveAgain (name : Bytes) : Der Unit := do
  if ← comes (partTag 0) then
    if (← value (partTag 0)) ≠ encode nameTag name then failure

/-- Takes a key on a curve and gives its public key.  The point in it is the one that belongs to
the secret number. -/
def onCurve (name : Bytes) (c : Weierstrass) : Der Bytes :=
  nested listTag do
    if (← small) ≠ 1 then failure
    let secret ← value octetsTag
    curveAgain name
    let point ← nested (partTag 1) wholeBytes
    if pointOf c secret = some point then return publicOf (curveAlgorithm name) point
    else failure

/-- The public key of a key that does not name its curve, on the first curve that fits. -/
def onSomeCurve (bytes : Bytes) : Option Bytes :=
  curves.firstM fun (name, c) ↦ whole? (onCurve name c) bytes

/-! ## Keys behind the name of their algorithm -/

/-- Takes a key behind its version and the name of its algorithm.  Attributes behind the key do not
count, and a key of the second version has its public key behind them.  Gives the version, the
algorithm, the key and what is left. -/
def envelope : Der (Nat × Bytes × Bytes × Bytes) :=
  nested listTag do
    let version ← small
    let algorithm ← value listTag
    let key ← value octetsTag
    if ← comes (partTag 0) then discard (value (partTag 0))
    let left ← get
    set ([] : Bytes)
    return (version, algorithm, key, left)

/-- Takes the public key in a key for Ed25519, under either of its tags. -/
def edwardsPublic : Der Bytes := do
  if ← comes (partTag 1) then nested (partTag 1) wholeBytes
  else
    match ← value 0x81 with
    | 0 :: key => return key
    | _ => failure

/-- The public key of a key for Ed25519: a seed, and in the second version the public key that
belongs to it. -/
def edwards (version : Nat) (key left : Bytes) : Option Bytes := do
  let seed ← whole? (value octetsTag) key
  guard (seed.length = 32)
  let found := Edwards.publicKey seed
  guard ((version = 0 ∧ left = []) ∨ (version = 1 ∧ whole? edwardsPublic left = some found))
  return publicOf edwardsAlgorithm found

/-- The public key of a key behind the name of its algorithm.  Only keys for Ed25519 may be of the
second version. -/
def plain (bytes : Bytes) : Option Bytes := do
  let (version, algorithm, key, left) ← whole? envelope bytes
  if algorithm = edwardsAlgorithm then edwards version key left
  else
    guard (version = 0 ∧ left = [])
    if algorithm = rsaAlgorithm then whole? rsa key
    else
      let (name, c) ← curves.find? fun (name, _) ↦ curveAlgorithm name == algorithm
      whole? (onCurve name c) key

/-- What stands in the public key that belongs to a private key. -/
def publicKey (form : KeyForm) (key : Bytes) : Except TlsFault Bytes :=
  let found :=
    match form with
    | .plain => plain key
    | .rsa => whole? rsa key
    | .curve => onSomeCurve key
  found.elim (.error .unusableKey) .ok

end MariaClient.Tls.PrivateKey
