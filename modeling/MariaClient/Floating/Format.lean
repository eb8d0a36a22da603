import MariaClient.Text.Digits

/-!
# Binary floating point formats

The two formats of floating point numbers that the protocol carries, given by their bits, and
exact reading of decimal texts into them.  Numbers are kept as bits, so that nothing here depends
on how a machine computes.
-/

namespace MariaClient.Floating

/-- A binary format: the width of its fraction and of its exponent. -/
structure Format where
  fractionBits : Nat
  exponentBits : Nat
  deriving DecidableEq, Repr

namespace Format

/-- The format of 64 bits. -/
def double : Format := ⟨52, 11⟩

/-- The format of 32 bits. -/
def single : Format := ⟨23, 8⟩

/-- The place of the sign bit. -/
def signBit (f : Format) : Nat := 2 ^ (f.fractionBits + f.exponentBits)

/-- The largest exponent field, which stands for infinities and for no number. -/
def specialExponent (f : Format) : Nat := 2 ^ f.exponentBits - 1

/-- The power of two of the last place of the smallest numbers. -/
def leastPower (f : Format) : Int :=
  2 - 2 ^ (f.exponentBits - 1) - f.fractionBits

/-- The bits of infinity without a sign. -/
def infinity (f : Format) : Nat := f.specialExponent * 2 ^ f.fractionBits

/-- The bits of a value that is no number. -/
def notANumber (f : Format) : Nat := f.infinity + 2 ^ (f.fractionBits - 1)

end Format

/-- What the bits of a format stand for.  A finite number is `mantissa * 2 ^ power`. -/
inductive Reading
  | finite (negative : Bool) (mantissa : Nat) (power : Int)
  | infinite (negative : Bool)
  | notANumber
  deriving DecidableEq, Repr

/-- Reads the bits of a format. -/
def read (f : Format) (bits : Nat) : Reading :=
  let negative := decide (f.signBit ≤ bits)
  let fraction := bits % 2 ^ f.fractionBits
  let exponent := bits / 2 ^ f.fractionBits % 2 ^ f.exponentBits
  if exponent = f.specialExponent then
    if fraction = 0 then .infinite negative else .notANumber
  else if exponent = 0 then .finite negative fraction f.leastPower
  else .finite negative (2 ^ f.fractionBits + fraction) (f.leastPower + (exponent - 1))

/-- The quotient `num / den` rounded to the nearest integer, a half to the even one. -/
def roundDiv (num den : Nat) : Nat :=
  let q := num / den
  let r := num % den
  if den < 2 * r ∨ (2 * r = den ∧ q % 2 = 1) then q + 1 else q

/-- A fraction times a power of two, as a fraction. -/
def scale (num den : Nat) (power : Int) : Nat × Nat :=
  if 0 ≤ power then (num * 2 ^ power.toNat, den) else (num, den * 2 ^ (-power).toNat)

/-- The bits of the number nearest to `num / den`, which is not zero.  Of two equally near the
one with an even mantissa is taken, and what is too large becomes infinity. -/
def nearest (f : Format) (num den : Nat) : Nat :=
  let estimate : Int := (num.log2 : Int) - den.log2
  let exact : Int :=
    let (n, d) := scale num den (-estimate)
    if d ≤ n then estimate else estimate - 1
  let power := max (exact - f.fractionBits) f.leastPower
  let (n, d) := scale num den (-power)
  let mantissa := roundDiv n d
  let bits := (power - f.leastPower).toNat * 2 ^ f.fractionBits + mantissa
  min bits f.infinity

/-- The bits of a number of one format in another format. -/
def convert (g f : Format) (bits : Nat) : Nat :=
  let sign (negative : Bool) : Nat := if negative then f.signBit else 0
  match read g bits with
  | .notANumber => f.notANumber
  | .infinite negative => sign negative + f.infinity
  | .finite negative 0 _ => sign negative
  | .finite negative m q =>
    let (n, d) := scale m 1 q
    sign negative + nearest f n d

end MariaClient.Floating
