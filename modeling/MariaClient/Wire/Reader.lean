import MariaClient.Attempt
import MariaClient.Wire.Bytes

/-!
# Reading packets

A reader takes bytes from the front of a packet.  It may fail, and what it took before it failed
stays taken.
-/

namespace MariaClient.Wire

/-- Takes a value from the front of some bytes. -/
abbrev Reader : Type → Type :=
  Attempt Bytes

namespace Reader

variable {α : Type}

/-- The bytes that are left. -/
def remaining : Reader Bytes :=
  fun s ↦ (.ok s, s)

/-- Takes all bytes that are left. -/
def rest : Reader Bytes :=
  fun s ↦ (.ok s, [])

/-- Takes so many bytes. -/
def bytes (n : Nat) : Reader Bytes := fun s ↦
  if s.length < n then (.error (.protocol .tooShort), s) else (.ok (s.take n), s.drop n)

/-- Takes a number of so many bytes. -/
def le (count : Nat) : Reader Nat := do
  return ofLE (← bytes count)

/-- Takes one byte. -/
def byte : Reader UInt8 := do
  match ← bytes 1 with
  | b :: _ => return b
  | [] => Attempt.fail (.protocol .tooShort)

/-- Takes a number whose first byte tells its length, or the mark that stands for no value. -/
def lenEncInt : Reader (Option Nat) := do
  let first ← byte
  if first = 0xfb then return none
  else if first = 0xfc then return some (← le 2)
  else if first = 0xfd then return some (← le 3)
  else if first = 0xfe then return some (← le 8)
  else return some first.toNat

/-- Takes a run of bytes that follows its length, or the mark that stands for no value. -/
def lenEncBytes : Reader (Option Bytes) := do
  match ← lenEncInt with
  | some n => return some (← bytes n)
  | none => return none

/-- Takes the bytes up to a zero byte and that byte too, or all bytes if there is none. -/
def nulBytes : Reader Bytes :=
  fun s ↦ (.ok (s.takeWhile (· != 0)), (s.dropWhile (· != 0)).drop 1)

/-- Takes a text with its length in front.  The mark for no value is an empty text. -/
def lenEncText : Reader String := do
  return Text.decode ((← lenEncBytes).getD [])

/-- Runs a reader so many times. -/
def times (r : Reader α) : Nat → Reader (List α)
  | 0 => return []
  | n + 1 => do
    let a ← r
    return a :: (← times r n)

end Reader

/-! ## Writing -/

/-- A number with a first byte that tells its length. -/
def lenEncInt (n : Nat) : Bytes :=
  if n < 251 then [UInt8.ofNat n]
  else if n < 65536 then 0xfc :: toLE 2 n
  else if n < 16777216 then 0xfd :: toLE 3 n
  else 0xfe :: toLE 8 n

/-- A run of bytes after its length. -/
def lenEncBytes (bs : Bytes) : Bytes :=
  lenEncInt bs.length ++ bs

end MariaClient.Wire
