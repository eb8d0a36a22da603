import MariaClient.Digest.Blocks

/-!
# SHA-1
-/

namespace MariaClient.Digest.Sha1

open Wire

/-- The five words before the first block. -/
def start : List UInt32 :=
  [0x67452301, 0xEFCDAB89, 0x98BADCFE, 0x10325476, 0xC3D2E1F0]

/-- The eighty words that a block gives. -/
def schedule (block : List UInt32) : List UInt32 :=
  (extend (fun w ↦ rotateLeft (back w 3 ^^^ back w 8 ^^^ back w 14 ^^^ back w 16) 1) 64
    block.reverse).reverse

/-- The function and the constant of a round. -/
def roundRule (t : Nat) (b c d : UInt32) : UInt32 × UInt32 :=
  if t < 20 then ((b &&& c) ||| (~~~b &&& d), 0x5A827999)
  else if t < 40 then (b ^^^ c ^^^ d, 0x6ED9EBA1)
  else if t < 60 then ((b &&& c) ||| (b &&& d) ||| (c &&& d), 0x8F1BBCDC)
  else (b ^^^ c ^^^ d, 0xCA62C1D6)

/-- One round with the word of its number. -/
def round (state : List UInt32) (step : UInt32 × Nat) : List UInt32 :=
  match state with
  | [a, b, c, d, e] =>
    let (f, k) := roundRule step.2 b c d
    [rotateLeft a 5 + f + e + k + step.1, a, rotateLeft b 30, c, d]
  | other => other

/-- The state after a block. -/
def compress (state block : List UInt32) : List UInt32 :=
  addState state ((schedule block).zipIdx.foldl round state)

/-- The digest of a message, of twenty bytes. -/
def digest (message : Bytes) : Bytes :=
  ((blocks 4 word message).foldl compress start).flatMap wordBytes

end MariaClient.Digest.Sha1
