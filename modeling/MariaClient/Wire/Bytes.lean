import MariaClient.Numbers
import MariaClient.Text.Utf8

/-!
# Bytes and little-endian numbers

Numbers travel with their lowest byte first.  `ofLE_toLE` says that reading the bytes of a number
gives it back, as far as it fits.
-/

namespace MariaClient.Wire

/-- A run of bytes. -/
abbrev Bytes := List UInt8

/-- The lowest `count` bytes of a number, the lowest first. -/
def toLE : Nat → Nat → Bytes
  | 0, _ => []
  | count + 1, n => UInt8.ofNat (n % 256) :: toLE count (n / 256)

/-- The number whose bytes these are, the lowest first. -/
def ofLE : Bytes → Nat
  | [] => 0
  | b :: bs => b.toNat + 256 * ofLE bs

@[simp] theorem length_toLE (count n : Nat) : (toLE count n).length = count := by
  induction count generalizing n with
  | zero => rfl
  | succ count ih => simp [toLE, ih]

theorem ofLE_toLE (count n : Nat) : ofLE (toLE count n) = n % 256 ^ count := by
  induction count generalizing n with
  | zero => simp [toLE, ofLE, Nat.mod_one]
  | succ count ih =>
    have h : (UInt8.ofNat (n % 256)).toNat = n % 256 := by simp
    rw [toLE, ofLE, ih, h, Nat.pow_succ', Nat.mod_mul]

theorem ofLE_lt (bs : Bytes) : ofLE bs < 256 ^ bs.length := by
  induction bs with
  | nil => simp [ofLE]
  | cons b bs ih =>
    have hb := b.toNat_lt
    simp only [ofLE, List.length_cons, Nat.pow_succ']
    omega

/-- The bytes of a number made from so many bytes are those bytes. -/
theorem toLE_ofLE (bs : Bytes) : toLE bs.length (ofLE bs) = bs := by
  induction bs with
  | nil => rfl
  | cons b bs ih =>
    have hb := b.toNat_lt
    have h1 : (b.toNat + 256 * ofLE bs) % 256 = b.toNat := by omega
    have h2 : (b.toNat + 256 * ofLE bs) / 256 = ofLE bs := by omega
    simp [toLE, ofLE, h1, h2, ih]

/-- The signed number whose lowest bits are those of `n`. -/
def signExtend (bits n : Nat) : Int :=
  Int.bmod n (2 ^ bits)

/-- The unsigned number with the lowest bits of `n`. -/
def lowBits (bits : Nat) (n : Int) : Nat :=
  (n % 2 ^ bits).toNat

/-- Hexadecimal digits of some bytes, two for each. -/
def hex (bs : Bytes) : String :=
  let digit (n : Nat) : Char := Char.ofNat (if n < 10 then 48 + n else 87 + n)
  String.ofList (bs.flatMap fun b ↦ [digit (b.toNat / 16), digit (b.toNat % 16)])

/-- The number that a run of digits to the base of sixteen spells. -/
def ofHexDigits (s : String) : Nat :=
  s.toList.foldl (fun n c ↦
    n * 16 + if c.isDigit then c.toNat - 48 else c.toLower.toNat - 87) 0

/-- The bytes that pairs of digits to the base of sixteen spell. -/
def ofHex (s : String) : Bytes :=
  let rec go : List Char → Bytes → Bytes
    | a :: b :: rest, done => go rest (UInt8.ofNat (ofHexDigits (String.ofList [a, b])) :: done)
    | _, done => done.reverse
  go s.toList []

end MariaClient.Wire
