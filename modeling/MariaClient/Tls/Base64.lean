import MariaClient.Error
import MariaClient.Wire.Bytes

/-!
# Base 64

Bytes written as letters of six bits.  Blanks between the letters do not count, and the marks that
fill up the last four letters may be left out.
-/

namespace MariaClient.Tls.Base64

open Wire

/-- What a byte stands for in a text of letters. -/
inductive Letter
  | bits (n : Nat)
  | filler
  | blank
  deriving DecidableEq, Repr

/-- The letter of a byte. -/
def letter? (b : UInt8) : Option Letter :=
  let n := b.toNat
  if 65 ≤ n ∧ n ≤ 90 then some (.bits (n - 65))
  else if 97 ≤ n ∧ n ≤ 122 then some (.bits (n - 71))
  else if 48 ≤ n ∧ n ≤ 57 then some (.bits (n + 4))
  else if n = 43 then some (.bits 62)
  else if n = 47 then some (.bits 63)
  else if n = 61 then some .filler
  else if n = 32 ∨ (9 ≤ n ∧ n ≤ 13) then some .blank
  else none

/-- The letters of a text without its blanks: the bits of a letter, or nothing for a filler.  Eight
letters with a filler among them have to be the last. -/
def letters (taken : List (Option Nat)) : Bytes → Except PemFault (List (Option Nat))
  | [] => .ok taken.reverse
  | b :: rest =>
    match letter? b with
    | none => .error (.character b)
    | some .blank => letters taken rest
    | some l =>
      let item := match l with
        | .bits n => some n
        | _ => none
      if taken.length % 8 = 0 ∧ none ∈ taken.take 8 then .error .earlyPadding
      else letters (item :: taken) rest

/-- The bytes of some letters.  The bits that are left at the end do not count. -/
def pack : List Nat → Bytes
  | a :: b :: c :: d :: rest =>
    UInt8.ofNat (a * 4 + b / 16) :: UInt8.ofNat (b % 16 * 16 + c / 4) ::
      UInt8.ofNat (c % 4 * 64 + d) :: pack rest
  | [a, b, c] => [UInt8.ofNat (a * 4 + b / 16), UInt8.ofNat (b % 16 * 16 + c / 4)]
  | [a, b] => [UInt8.ofNat (a * 4 + b / 16)]
  | _ => []

/-- The last one to four letters: two or more letters with bits, and either no fillers behind them
or as many as are missing to four. -/
def lastFour (last : List (Option Nat)) : Except PemFault (List Nat) :=
  match last with
  | [] => .ok []
  | [some a, some b] | [some a, some b, none, none] => .ok [a, b]
  | [some a, some b, some c] | [some a, some b, some c, none] => .ok [a, b, c]
  | [some a, some b, some c, some d] => .ok [a, b, c, d]
  | _ => .error .padding

/-- The bytes that a text of letters spells. -/
def decode (text : Bytes) : Except PemFault Bytes := do
  let all ← letters [] text
  let front := (all.length - 1) / 4 * 4
  if none ∈ all.take front then throw .earlyPadding
  return pack ((all.take front).filterMap id ++ (← lastFour (all.drop front)))

end MariaClient.Tls.Base64
