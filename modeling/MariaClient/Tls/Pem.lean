import MariaClient.Tls.Base64

/-!
# Sections of certificates and keys

A file of certificates and keys holds sections between lines that begin and end them.  What stands
between the sections does not count, and neither do sections of other kinds.
-/

namespace MariaClient.Tls.Pem

open Wire

/-- The kinds of sections. -/
inductive Kind
  | certificate
  | publicKey
  | rsaKey
  | plainKey
  | curveKey
  | revocations
  | request
  | hello
  deriving DecidableEq, Repr

/-- The name of a kind in the lines around a section. -/
def Kind.name : Kind → String
  | certificate => "CERTIFICATE"
  | publicKey => "PUBLIC KEY"
  | rsaKey => "RSA PRIVATE KEY"
  | plainKey => "PRIVATE KEY"
  | curveKey => "EC PRIVATE KEY"
  | revocations => "X509 CRL"
  | request => "CERTIFICATE REQUEST"
  | hello => "ECHCONFIG"

/-- All kinds. -/
def Kind.all : List Kind :=
  [certificate, publicKey, rsaKey, plainKey, curveKey, revocations, request, hello]

/-- A section with the bytes that it spells. -/
structure Section where
  kind : Kind
  bytes : Bytes
  deriving DecidableEq, Repr

/-- The lines of a file together with their ends. -/
def lines : Bytes → List Bytes
  | [] => []
  | b :: bs =>
    if b = 10 ∨ b = 13 then [b] :: lines bs
    else
      match lines bs with
      | [] => [[b]]
      | line :: rest => (b :: line) :: rest

/-- The beginning of the line in front of a section. -/
def opening : Bytes :=
  Text.encode "-----BEGIN "

/-- The line behind a section with a label. -/
def marker (label : Bytes) : Bytes :=
  Text.encode "-----END " ++ label ++ Text.encode "-----"

/-- A hyphen. -/
def hyphen : UInt8 := 45

/-- A hyphen, a space or the end of a line. -/
def isTrailing (b : UInt8) : Bool :=
  b == hyphen || b == 10 || b == 13 || b == 32

/-- The label in the line in front of a section, which has five hyphens behind it. -/
def label? (line : Bytes) : Option Bytes :=
  let tail := line.reverse.takeWhile isTrailing
  let hyphens := tail.count hyphen
  let behind := (tail.reverse.dropWhile (· != hyphen)).length
  if hyphens = 5 then some ((line.drop opening.length).take
    (line.length - opening.length - behind))
  else none

/-- The kind that a label names. -/
def kind? (label : Bytes) : Option Kind :=
  Kind.all.find? fun k ↦ Text.encode k.name == label

/-- The sections in some lines.  `current` is the label of the section that the lines are in and
`body` what has been read of it.  A section that cannot be read does not hide those after it. -/
def sectionsFrom (current : Option Bytes) (body : Bytes) :
    List Bytes → List (Except PemFault Section)
  | [] =>
    match current with
    | some label => [.error (.unclosed (Text.decode label))]
    | none => []
  | line :: rest =>
    if opening.isPrefixOf line then
      match label? line with
      | some label => sectionsFrom (some label) body rest
      | none => .error (.opening (Text.decode line)) :: sectionsFrom none [] rest
    else
      match current with
      | none => sectionsFrom none [] rest
      | some label =>
        if (marker label).isPrefixOf line then
          match kind? label with
          | none => sectionsFrom none [] rest
          | some kind =>
            (Base64.decode body).map (fun bytes ↦ { kind, bytes }) :: sectionsFrom none [] rest
        else sectionsFrom current (body ++ line) rest

/-- The sections of a file. -/
def sections (file : Bytes) : List (Except PemFault Section) :=
  sectionsFrom none [] (lines file)

/-- The certificates of a file.  Sections that cannot be read are left out. -/
def certificates (file : Bytes) : List Bytes :=
  (sections file).filterMap fun
    | .ok ⟨.certificate, bytes⟩ => some bytes
    | _ => none

/-- A private key in one of the forms in which it may be written. -/
inductive KeyForm
  | plain
  | rsa
  | curve
  deriving DecidableEq, Repr

/-- The form of the key in a section. -/
def Kind.keyForm? : Kind → Option KeyForm
  | plainKey => some .plain
  | rsaKey => some .rsa
  | curveKey => some .curve
  | _ => none

/-- The first private key of a file, unless a section in front of it cannot be read. -/
def privateKey? (file : Bytes) : Except PemFault (Option (KeyForm × Bytes)) :=
  let rec first : List (Except PemFault Section) → Except PemFault (Option (KeyForm × Bytes))
    | [] => .ok none
    | .error e :: _ => .error e
    | .ok s :: rest =>
      match s.kind.keyForm? with
      | some form => .ok (some (form, s.bytes))
      | none => first rest
  first (sections file)

end MariaClient.Tls.Pem
