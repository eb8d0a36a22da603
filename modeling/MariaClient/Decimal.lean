import MariaClient.Error
import MariaClient.Floating.Format
import MariaClient.Text.Blank

/-!
# Decimals

A decimal is a scaled signed word of 64 bits: it stands for `value / 10 ^ precision`.  The
operations on two decimals keep the precision of the left one, to which the right one is
rescaled exactly or cut off.  Comparison is exact at any precision.
-/

namespace MariaClient

open Text

/-- The number `value / 10 ^ precision`. -/
structure Decimal where
  value : Int
  precision : Nat
  deriving DecidableEq, Repr

namespace Decimal

/-- Zero with four fraction digits. -/
def zero : Decimal := ⟨0, 4⟩

/-- A value that a decimal can hold, at most 64 bits with a sign. -/
def fits (n : Int) : Bool :=
  fitsSigned 64 n

/-- A decimal that operations can produce. -/
def Valid (d : Decimal) : Prop :=
  fits d.value = true ∧ d.precision ≤ maxPrecision

/-- The error of an operation whose result does not fit. -/
def overflow (op : DecimalOp) : Error :=
  .decimal (.overflow op)

/-- Accepts a value that fits. -/
def checked (op : DecimalOp) (n : Int) : Except Error Int :=
  if fits n then .ok n else .error (overflow op)

/-- Accepts a precision that decimals can have. -/
def checkPrecision (p : Nat) : Except Error Unit :=
  if p ≤ maxPrecision then .ok () else .error (.decimal (.precision p))

/-- The decimal of a scaled value. -/
def ofScaled (value : Int) (precision : Nat) : Except Error Decimal := do
  checkPrecision precision
  return ⟨value, precision⟩

/-- A whole number at a precision. -/
def ofInt (n : Int) (precision : Nat) : Except Error Decimal := do
  checkPrecision precision
  let value ← checked .ofInt (n * 10 ^ precision)
  return ⟨value, precision⟩

/-- A number of any sign rounded to an integer, a half away from zero. -/
def roundHalfAway (negative : Bool) (num den : Nat) : Int :=
  let q := num / den
  let magnitude := if den ≤ 2 * (num % den) then q + 1 else q
  if negative then -(magnitude : Int) else magnitude

/-- The integer nearest to `n / d`, a half away from zero. -/
def divRound (n d : Int) : Int :=
  roundHalfAway (decide (n < 0) != decide (d < 0)) n.natAbs d.natAbs

/-- The decimal next to a number of the double format.  The number is first multiplied within
that format, then rounded with a half going away from zero. -/
def ofDouble (bits precision : Nat) : Except Error Decimal := do
  checkPrecision precision
  match Floating.read .double bits with
  | .finite negative m q =>
    let (num, den) := Floating.scale (m * 10 ^ precision) 1 q
    let scaled := if m = 0 then 0 else Floating.nearest .double num den
    match Floating.read .double scaled with
    | .finite _ m q =>
      let (num, den) := Floating.scale m 1 q
      let value ← checked .ofDouble (roundHalfAway negative num den)
      return ⟨value, precision⟩
    | _ => throw (overflow .ofDouble)
  | _ => throw (overflow .ofDouble)

/-- The scale of a decimal. -/
def factor (d : Decimal) : Int :=
  10 ^ d.precision

/-- The bits of the decimal in the double format: the quotient of its value, rounded to that
format, by its factor. -/
def toDouble (d : Decimal) : Nat :=
  let sign := if d.value < 0 then Floating.Format.double.signBit else 0
  if d.value = 0 then 0
  else
    match Floating.read .double (Floating.nearest .double d.value.natAbs 1) with
    | .finite _ m q =>
      let (num, den) := Floating.scale m (10 ^ d.precision) q
      sign + Floating.nearest .double num den
    | _ => sign

/-- The bits of the decimal in the single format, rounded from the double one. -/
def toSingle (d : Decimal) : Nat :=
  Floating.convert .double .single d.toDouble

/-- The magnitude of a decimal. -/
def abs (d : Decimal) : Except Error Decimal := do
  let value ← checked .abs d.value.natAbs
  return { d with value }

/-- The decimal of the other sign. -/
def neg (d : Decimal) : Except Error Decimal := do
  let value ← checked .neg (-d.value)
  return { d with value }

/-- The value of a decimal at another precision.  Fraction digits that do not fit are cut off. -/
def rescaled (d : Decimal) (precision : Nat) : Except Error Int :=
  if d.precision ≤ precision then
    checked .rescale (d.value * 10 ^ (precision - d.precision))
  else .ok (d.value.tdiv (10 ^ (d.precision - precision)))

/-- The same number at another precision. -/
def withPrecision (d : Decimal) (precision : Nat) : Except Error Decimal := do
  checkPrecision precision
  let value ← d.rescaled precision
  return ⟨value, precision⟩

/-- The sum at the precision of the left decimal. -/
def add (a b : Decimal) : Except Error Decimal := do
  let t ← b.rescaled a.precision
  let value ← checked .add (a.value + t)
  return { a with value }

/-- The difference at the precision of the left decimal. -/
def sub (a b : Decimal) : Except Error Decimal := do
  let t ← b.rescaled a.precision
  let value ← checked .sub (a.value - t)
  return { a with value }

/-- The product, rounded at the precision of the left decimal. -/
def mul (a b : Decimal) : Except Error Decimal := do
  let value ← checked .mul (divRound (a.value * b.value) b.factor)
  return { a with value }

/-- The quotient, rounded at the precision of the left decimal. -/
def div (a b : Decimal) : Except Error Decimal := do
  if b.value = 0 then throw (.decimal .divisionByZero)
  let value ← checked .div (divRound (a.value * b.factor) b.value)
  return { a with value }

/-- The value of a decimal at a precision that is not smaller than its own, however large. -/
def widened (d : Decimal) (precision : Nat) : Int :=
  d.value * 10 ^ (precision - d.precision)

/-- Compares two decimals as numbers. -/
def order (a b : Decimal) : Ordering :=
  let p := max a.precision b.precision
  compare (a.widened p) (b.widened p)

/-- The two decimals are the same number. -/
def same (a b : Decimal) : Bool :=
  a.order b == .eq

/-! ## Text -/

/-- The text of a decimal: all of its fraction digits, and no point if it has none. -/
def chars (d : Decimal) : List Char :=
  if d.precision = 0 then signedDigits d.value
  else
    let sign := if d.value < 0 then ['-'] else []
    let magnitude := d.value.natAbs
    sign ++ digits (magnitude / 10 ^ d.precision) ++
      '.' :: padded d.precision (magnitude % 10 ^ d.precision)

/-- The text of a decimal. -/
def text (d : Decimal) : String :=
  String.ofList d.chars

/-- The sign in front of a number and what follows it. -/
def splitSign : List Char → Bool × List Char
  | '-' :: s => (true, s)
  | '+' :: s => (false, s)
  | s => (false, s)

/-- The text before the first point and the text after it. -/
def splitPoint (s : List Char) : List Char × List Char :=
  (s.takeWhile (· != '.'), (s.dropWhile (· != '.')).drop 1)

/-- A run of digits as a word of 64 bits. -/
def digitsWord (ds : List Char) : Except Error Int :=
  checked .parse (Text.value ds)

/-- Reads a decimal.  Its precision is the number of digits after the point. -/
def parse (s : String) : Except Error Decimal := do
  let (negative, body) := splitSign (trim s.toList)
  let (whole, fraction) := splitPoint body
  if (whole = [] ∧ fraction = []) ∨ !whole.all Char.isDigit ∨ !fraction.all Char.isDigit then
    throw (.format .decimal s)
  if maxPrecision < fraction.length then
    throw (.decimal (.fractionDigits s))
  let precision := fraction.length
  let wholeValue ← digitsWord whole
  let scaled ← checked .parse (wholeValue * 10 ^ precision)
  let fractionValue ← digitsWord fraction
  let value ← checked .parse (scaled + fractionValue)
  return ⟨if negative then -value else value, precision⟩

end Decimal

end MariaClient
