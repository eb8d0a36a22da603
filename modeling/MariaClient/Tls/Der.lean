import MariaClient.Wire.Bytes

/-!
# Tagged values

The binary form of certificates and keys: a tag, a length in as few bytes as possible and a value
of that length.
-/

namespace MariaClient.Tls

open Wire

/-- Takes tagged values off the front of some bytes. -/
abbrev Der := StateT Bytes Option

namespace Der

/-- The tag of a whole number. -/
def integerTag : UInt8 := 0x02

/-- The tag of a run of bits. -/
def bitsTag : UInt8 := 0x03

/-- The tag of a run of bytes. -/
def octetsTag : UInt8 := 0x04

/-- The tag of a name of an algorithm. -/
def nameTag : UInt8 := 0x06

/-- The tag of a list of values. -/
def listTag : UInt8 := 0x30

/-- The tag of an optional part. -/
def partTag (n : UInt8) : UInt8 :=
  0xa0 + n

/-- Takes a length: one byte, or one or two behind a byte that says how many.  It is written in as
few bytes as possible. -/
def length : Der Nat
  | b :: rest =>
    if b < 0x80 then some (b.toNat, rest)
    else
      let count := b.toNat - 0x80
      let n := ofLE (rest.take count).reverse
      if count = 0 ∨ 2 < count ∨ rest.length < count then none
      else if n < 0x80 ∨ n < 256 ^ (count - 1) then none
      else some (n, rest.drop count)
  | [] => none

/-- Takes any value together with its tag. -/
def any : Der (UInt8 × Bytes)
  | tag :: rest => do
    if tag &&& 0x1f = 0x1f then failure
    let (n, rest) ← length rest
    if rest.length < n then failure
    return ((tag, rest.take n), rest.drop n)
  | [] => none

/-- Takes a value with a given tag. -/
def value (tag : UInt8) : Der Bytes := do
  let (found, bytes) ← any
  if found = tag then return bytes else failure

/-- Reads all of some bytes. -/
def whole? {α : Type} (r : Der α) (bytes : Bytes) : Option α :=
  match r bytes with
  | some (a, []) => some a
  | _ => none

/-- Takes a value with a given tag and reads all of it. -/
def nested {α : Type} (tag : UInt8) (r : Der α) : Der α := do
  let bytes ← value tag
  match whole? r bytes with
  | some a => return a
  | none => failure

/-- Takes a run of whole bytes out of a run of bits. -/
def wholeBytes : Der Bytes := do
  match ← value bitsTag with
  | 0 :: bytes => return bytes
  | _ => failure

/-- The next value has a given tag. -/
def comes (tag : UInt8) : Der Bool :=
  fun s ↦ some (s.head? == some tag, s)

/-- The number that some bytes stand for, the highest first.  It is not negative, and a zero stands
in front only where the number would else look negative. -/
def natural? : Bytes → Option Nat
  | [] => none
  | [b] => if b < 0x80 then some b.toNat else none
  | b :: c :: rest =>
    if 0x80 ≤ b ∨ (b = 0 ∧ c < 0x80) then none else some (ofLE (b :: c :: rest).reverse)

/-- Takes a whole number that is not negative. -/
def natural : Der Nat := do
  natural? (← value integerTag)

/-- Takes a number below 256. -/
def small : Der Nat := do
  let n ← natural
  if n < 256 then return n else failure

/-- The bytes of a length. -/
def encodeLength (n : Nat) : Bytes :=
  if n < 0x80 then [UInt8.ofNat n]
  else if n < 0x100 then 0x81 :: toLE 1 n
  else 0x82 :: (toLE 2 n).reverse

/-- A value behind its tag and its length. -/
def encode (tag : UInt8) (bytes : Bytes) : Bytes :=
  tag :: encodeLength bytes.length ++ bytes

end Der

end MariaClient.Tls
