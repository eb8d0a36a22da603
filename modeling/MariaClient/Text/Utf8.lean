/-!
# UTF-8

Bytes of a text, and the text of bytes that may not be valid UTF-8.  Where the bytes break the
encoding, every maximal run of bytes that could still have begun a character is read as one
replacement character.
-/

namespace MariaClient.Text

/-- The bytes of a text in UTF-8. -/
def encode (s : String) : List UInt8 :=
  s.toList.flatMap String.utf8EncodeChar

/-- The character that stands for bytes that are no text. -/
def replacement : Char :=
  Char.ofNat 0xFFFD

/-- A character of which some bytes have been read.  The next byte has to lie between `low` and
`high`, and `missing` more bytes follow that one. -/
structure Partial where
  code : Nat
  low : Nat := 0x80
  high : Nat := 0xBF
  missing : Nat

/-- What one byte at the start of a character tells. -/
inductive Lead
  | complete (c : Char)
  | more (p : Partial)
  | invalid

/-- The class of a first byte.  Bytes that could only begin an overlong form, a surrogate or a
code point past the last one are invalid, here or at the second byte. -/
def lead (b : UInt8) : Lead :=
  let n := b.toNat
  if n < 0x80 then .complete (Char.ofNat n)
  else if n < 0xC2 then .invalid
  else if n < 0xE0 then .more { code := n - 0xC0, missing := 0 }
  else if n == 0xE0 then .more { code := 0, low := 0xA0, missing := 1 }
  else if n == 0xED then .more { code := 0xD, high := 0x9F, missing := 1 }
  else if n < 0xF0 then .more { code := n - 0xE0, missing := 1 }
  else if n == 0xF0 then .more { code := 0, low := 0x90, missing := 2 }
  else if n < 0xF4 then .more { code := n - 0xF0, missing := 2 }
  else if n == 0xF4 then .more { code := 4, high := 0x8F, missing := 2 }
  else .invalid

/-- What the first byte of a character writes, and the character it leaves pending. -/
def begin (b : UInt8) : List Char × Option Partial :=
  match lead b with
  | .complete c => ([c], none)
  | .more p => ([], some p)
  | .invalid => ([replacement], none)

/-- What a byte writes after the pending character `p`, and what it leaves pending.  A byte that
cannot go on with `p` ends it and begins a character of its own. -/
def step (p : Option Partial) (b : UInt8) : List Char × Option Partial :=
  match p with
  | none => begin b
  | some q =>
    if q.low ≤ b.toNat ∧ b.toNat ≤ q.high then
      let code := q.code * 64 + (b.toNat - 0x80)
      if q.missing = 0 then ([Char.ofNat code], none)
      else ([], some { code := code, missing := q.missing - 1 })
    else (replacement :: (begin b).1, (begin b).2)

/-- The characters of some bytes, read after the pending character `p`. -/
def decodeFrom (p : Option Partial) : List UInt8 → List Char
  | [] => if p.isSome then [replacement] else []
  | b :: rest => (step p b).1 ++ decodeFrom (step p b).2 rest

/-- The text of some bytes, with a replacement character for each part that is not UTF-8. -/
def decode (bytes : List UInt8) : String :=
  String.ofList (decodeFrom none bytes)

end MariaClient.Text
