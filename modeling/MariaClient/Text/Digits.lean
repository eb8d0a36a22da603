import MariaClient.Numbers

/-!
# Digits

Numbers written in decimal: printing with a least width, and reading back with or without a
sign.  `value_digits` says that reading undoes printing.
-/

namespace MariaClient.Text

/-- The decimal digits of `n`, most significant first. -/
def digits (n : Nat) : List Char :=
  Nat.toDigits 10 n

/-- The number that a run of decimal digits spells. -/
def value (ds : List Char) : Nat :=
  Nat.ofDigitChars 10 ds 0

@[simp] theorem value_digits (n : Nat) : value (digits n) = n :=
  Nat.ofDigitChars_toDigits (by decide) (by decide)

/-- The digits of `n`, filled with zeros in front to at least `width` digits. -/
def padded (width n : Nat) : List Char :=
  List.replicate (width - (digits n).length) '0' ++ digits n

/-- The digits of `n` after a minus sign if it is negative. -/
def signedDigits (n : Int) : List Char :=
  if n < 0 then '-' :: digits n.natAbs else digits n.natAbs

/-- The text of a number that may be negative. -/
def ofInt (n : Int) : String :=
  String.ofList (signedDigits n)

/-- The text of a natural number with at least `width` digits. -/
def ofNat (width n : Nat) : String :=
  String.ofList (padded width n)

/-- Reads a text of one or more digits and nothing else. -/
def digits? (s : List Char) : Option Nat :=
  if s ≠ [] ∧ s.all Char.isDigit then some (value s) else none

/-- Reads digits after an optional plus sign. -/
def unsigned? : List Char → Option Nat
  | '+' :: s => digits? s
  | s => digits? s

/-- Reads digits after an optional sign. -/
def signed? : List Char → Option Int
  | '-' :: s => (digits? s).map fun n ↦ -(n : Int)
  | s => (unsigned? s).map fun n ↦ (n : Int)

/-- Whether `n` is a value of a signed word of so many bits. -/
def fitsSigned (bits : Nat) (n : Int) : Bool :=
  -(2 ^ (bits - 1) : Int) ≤ n && n < (2 ^ (bits - 1) : Int)

theorem fitsSigned_iff {bits : Nat} {n : Int} :
    fitsSigned bits n = true ↔ -2 ^ (bits - 1) ≤ n ∧ n < 2 ^ (bits - 1) := by
  rw [fitsSigned, Bool.and_eq_true, decide_eq_true_eq, decide_eq_true_eq]

/-- Whether `n` is a value of an unsigned word of so many bits. -/
def fitsUnsigned (bits : Nat) (n : Int) : Bool :=
  0 ≤ n && n < (2 ^ bits : Int)

/-- Reads a signed word of so many bits. -/
def signedWord? (bits : Nat) (s : List Char) : Option Int :=
  (signed? s).filter (fitsSigned bits)

/-- Reads an unsigned word of so many bits. -/
def unsignedWord? (bits : Nat) (s : List Char) : Option Nat :=
  (unsigned? s).filter fun n ↦ n < 2 ^ bits

end MariaClient.Text
