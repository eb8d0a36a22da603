import MariaClient.Floating.Shortest

/-!
# Texts of floating point numbers

Writing a number with the fewest digits that read back, in a style that says where an exponent
is used, and reading a number from a text.
-/

namespace MariaClient.Floating

open Text

/-- How numbers are written.  `positional` holds the powers of ten of the first digit that are
written without an exponent, all of them if there are no bounds, and `wholePoint` says whether a
whole number written so ends in `.0`. -/
structure Style where
  positional : Option (Int × Int)
  wholePoint : Bool

/-- Digits with a decimal point and no exponent. -/
def plain (style : Style) (ds : List Char) (exponent : Int) : List Char :=
  if 0 ≤ exponent then
    ds ++ List.replicate exponent.toNat '0' ++ if style.wholePoint then ['.', '0'] else []
  else
    let places := (-exponent).toNat
    let whole := ds.take (ds.length - places)
    let fraction := List.replicate (places - ds.length) '0' ++ ds.drop (ds.length - places)
    (if whole = [] then ['0'] else whole) ++ '.' :: fraction

/-- Digits with a point after the first one and a signed power of ten. -/
def exponential (ds : List Char) (power : Int) : List Char :=
  let sign := if power < 0 then '-' else '+'
  let tail := 'e' :: sign :: digits power.natAbs
  match ds with
  | [] => tail
  | [c] => c :: tail
  | c :: rest => c :: '.' :: rest ++ tail

/-- The text of a positive number. -/
def Style.magnitude (style : Style) (c : Scientific) : List Char :=
  let ds := digits c.digits
  let power := c.exponent + ds.length - 1
  match style.positional with
  | none => plain style ds c.exponent
  | some (least, most) =>
    if least ≤ power ∧ power ≤ most then plain style ds c.exponent
    else exponential ds power

/-- The text of a finite number of a format. -/
def Style.finite (style : Style) (f : Format) (negative : Bool) (mantissa : Nat) (power : Int) :
    List Char :=
  let body :=
    if mantissa = 0 then '0' :: if style.wholePoint then ['.', '0'] else []
    else style.magnitude (shortest f mantissa power)
  if negative then '-' :: body else body

/-! ## Reading -/

/-- The text in lower case, for letters of ASCII. -/
def lower (s : List Char) : List Char :=
  s.map Char.toLower

/-- The number `ds * 10 ^ exponent` in a format.  Powers far beyond the format's range are not
computed. -/
def ofScientific (f : Format) (c : Scientific) : Nat :=
  let length : Int := (digits c.digits).length
  let range : Int := 2 ^ f.exponentBits
  if c.digits = 0 ∨ c.exponent + length < -range then 0
  else if range < c.exponent + length then f.infinity
  else
    let (n, d) := scale10 c.digits 1 c.exponent
    nearest f n d

/-- Reads a power of ten after the letter `e`. -/
def exponent? : List Char → Option Int
  | [] => some 0
  | c :: s => if c == 'e' || c == 'E' then signed? s else none

/-- Reads digits that may hold a point and be followed by an exponent. -/
def scientific? (s : List Char) : Option Scientific := do
  let whole := s.takeWhile Char.isDigit
  let rest := s.dropWhile Char.isDigit
  let (fraction, rest) :=
    match rest with
    | '.' :: r => (r.takeWhile Char.isDigit, r.dropWhile Char.isDigit)
    | r => ([], r)
  if whole = [] ∧ fraction = [] then none
  else
    let power ← exponent? rest
    some ⟨value (whole ++ fraction), power - fraction.length⟩

/-- Reads a number without a sign: digits, or a name of infinity or of no number in any case. -/
def magnitude? (f : Format) (s : List Char) : Option Nat :=
  if lower s = ['i', 'n', 'f'] ∨ lower s = ['i', 'n', 'f', 'i', 'n', 'i', 't', 'y'] then
    some f.infinity
  else if lower s = ['n', 'a', 'n'] then some f.notANumber
  else (scientific? s).map (ofScientific f)

/-- Reads the bits of a number of a format. -/
def parse? (f : Format) : List Char → Option Nat
  | '-' :: s => (magnitude? f s).map (f.signBit + ·)
  | '+' :: s => magnitude? f s
  | s => magnitude? f s

end MariaClient.Floating
