import MariaClient.Floating.Format

/-!
# Shortest decimals

The decimal with the fewest digits that reads back as a given binary number, and of those with
so few digits the one nearest to it.

The numbers that read back as `m * 2 ^ q` are those between the midpoints to its neighbours, the
midpoints included if `m` is even.  If a point of a decimal grid lies there, so does one of the
two grid points next to the number itself; hence only these two are tried on each grid.
-/

namespace MariaClient.Floating

/-- The number `digits * 10 ^ exponent`. -/
structure Scientific where
  digits : Nat
  exponent : Int
  deriving DecidableEq, Repr

/-- A fraction times a power of ten, as a fraction. -/
def scale10 (num den : Nat) (power : Int) : Nat × Nat :=
  if 0 ≤ power then (num * 10 ^ power.toNat, den) else (num, den * 10 ^ (-power).toNat)

/-- The largest power of ten that is not above the fraction, which is not zero. -/
def log10 (num den : Nat) : Int :=
  let estimate := (((num.log2 : Int) - den.log2 - 1) * 30103) / 100000
  let reached (e : Int) : Bool :=
    let (n, d) := scale10 num den (-e)
    d ≤ n
  if reached (estimate + 2) then estimate + 2
  else if reached (estimate + 1) then estimate + 1
  else if reached estimate then estimate
  else estimate - 1

/-- The numbers that read back as some mantissa and power, in quarters of `2 ^ power`: the lower
and the upper end, and whether the ends belong to them. -/
structure Rounding where
  lower : Nat
  upper : Nat
  closed : Bool

/-- The numbers that are nearest to `mantissa * 2 ^ power`.  Below a power of two the neighbour is
only half as far. -/
def rounding (f : Format) (mantissa : Nat) (power : Int) : Rounding :=
  let nearBelow := mantissa == 2 ^ f.fractionBits && f.leastPower < power
  { lower := 4 * mantissa - (if nearBelow then 1 else 2)
    upper := 4 * mantissa + 2
    closed := mantissa % 2 == 0 }

/-- Whether `digits * 10 ^ exponent` lies among the numbers that round to a mantissa. -/
def Rounding.holds (r : Rounding) (power : Int) (c : Scientific) : Bool :=
  let (n, d) := scale10 c.digits 1 c.exponent
  let (n, d) := scale n d (2 - power)
  if r.closed then r.lower * d ≤ n && n ≤ r.upper * d
  else r.lower * d < n && n < r.upper * d

/-- The nearest point that reads back on the grid of multiples of `10 ^ exponent`. -/
def onGrid (r : Rounding) (mantissa : Nat) (power exponent : Int) : Option Scientific :=
  let (n, d) := scale mantissa 1 power
  let (n, d) := scale10 n d (-exponent)
  let below : Scientific := ⟨n / d, exponent⟩
  let above : Scientific := ⟨n / d + 1, exponent⟩
  let nearer := if 2 * (n % d) ≤ d then [below, above] else [above, below]
  nearer.find? (r.holds power)

/-- Takes the trailing zeros off the digits, at most `fuel` of them. -/
def Scientific.strip (c : Scientific) : Nat → Scientific
  | 0 => c
  | fuel + 1 =>
    if c.digits % 10 = 0 ∧ c.digits ≠ 0 then
      Scientific.strip ⟨c.digits / 10, c.exponent + 1⟩ fuel
    else c

/-- The shortest decimal of the number `mantissa * 2 ^ power` of a format, if it is not zero. -/
def shortest (f : Format) (mantissa : Nat) (power : Int) : Scientific :=
  let r := rounding f mantissa power
  let (n, d) := scale mantissa 1 power
  let top := log10 n d
  let found := (List.range 20).findSome? fun (k : Nat) ↦ onGrid r mantissa power (top - k)
  (found.getD ⟨0, 0⟩).strip 20

end MariaClient.Floating
