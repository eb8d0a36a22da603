import MariaClient.Wire.Bytes

/-!
# Blocks of a digest

What the SHA digests have in common: a message is padded to blocks of sixteen words, the highest
byte first, and a state of words is updated block by block.  Words have 32 bits, or 64 in SHA-512.
-/

namespace MariaClient.Digest

open Wire

/-- The word made from four bytes, the highest first. -/
def word (bs : Bytes) : UInt32 :=
  bs.foldl (fun n b ↦ n * 256 + b.toUInt32) 0

/-- The four bytes of a word, the highest first. -/
def wordBytes (w : UInt32) : Bytes :=
  [(w >>> 24).toUInt8, (w >>> 16).toUInt8, (w >>> 8).toUInt8, w.toUInt8]

/-- A word with its bits turned to the left. -/
def rotateLeft (w : UInt32) (n : UInt32) : UInt32 :=
  (w <<< n) ||| (w >>> (32 - n))

/-- A word with its bits turned to the right. -/
def rotateRight (w : UInt32) (n : UInt32) : UInt32 :=
  (w >>> n) ||| (w <<< (32 - n))

/-- The message with a set bit behind it, zeros and its length in bits in an eighth of a block, so
that its own length is a multiple of `size`. -/
def pad (size : Nat) (message : Bytes) : Bytes :=
  let zeros := (2 * size - size / 8 - 1 - message.length % size) % size
  message ++ 0x80 :: List.replicate zeros 0 ++ (toLE (size / 8) (8 * message.length)).reverse

/-- The first `count` pieces of `size` bytes. -/
def pieces (size : Nat) : Nat → Bytes → List Bytes
  | 0, _ => []
  | count + 1, bs => bs.take size :: pieces size count (bs.drop size)

/-- The words of all blocks of a message, each made from so many bytes. -/
def blocks {ω : Type} (width : Nat) (word : Bytes → ω) (message : Bytes) : List (List ω) :=
  let size := 16 * width
  let padded := pad size message
  (pieces size (padded.length / size) padded).map fun block ↦ (pieces width 16 block).map word

/-- Goes on with a list of words, newest first, by a rule that makes the next word. -/
def extend {ω : Type} (next : List ω → ω) : Nat → List ω → List ω
  | 0, newestFirst => newestFirst
  | count + 1, newestFirst => extend next count (next newestFirst :: newestFirst)

/-- The word that stands `n` places before the next one. -/
def back {ω : Type} [OfNat ω 0] (newestFirst : List ω) (n : Nat) : ω :=
  newestFirst.getD (n - 1) 0

/-- The two states added word by word. -/
def addState {ω : Type} [Add ω] (a b : List ω) : List ω :=
  List.zipWith (· + ·) a b

/-- The bytes of `a` and `b` joined by exclusive or. -/
def xorBytes (a b : Bytes) : Bytes :=
  List.zipWith (· ^^^ ·) a b

end MariaClient.Digest
