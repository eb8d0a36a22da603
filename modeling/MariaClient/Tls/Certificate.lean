import MariaClient.Error
import MariaClient.Tls.Der

/-!
# Certificates

What is read of a certificate: that its parts are there and in order, that it makes no demand which
is not understood, and the public key in it.
-/

namespace MariaClient.Tls

open Wire Der

namespace Certificate

/-- Takes parts of a certificate off the front of some bytes. -/
abbrev Parts := StateT Bytes (Except TlsFault)

/-- Bytes that are not the tagged values which they should be are badly encoded. -/
instance : MonadLift Der Parts where
  monadLift r := fun s ↦
    match r s with
    | some result => .ok result
    | none => .error .certificateEncoding

/-- Takes a value with a given tag and reads all of it.  `fault` tells what it means that there is
no such value, or that something of it is left. -/
def within {α : Type} (tag : UInt8) (fault : TlsFault) (r : Parts α) : Parts α := fun s ↦
  match value tag s with
  | none => .error fault
  | some (bytes, rest) => do
    let (a, left) ← r bytes
    if left = [] then return (a, rest) else throw fault

/-- Takes the version, which has to be the third.  A certificate without one is of the first. -/
def version : Parts Unit :=
  within (partTag 0) .certificateVersion do
    if (← small) ≠ 2 then throw .certificateVersion

/-! ## Extensions -/

/-- An extension: its name, whether a reader that does not know it has to give up, and what is in
it. -/
structure Extension where
  name : Bytes
  critical : Bool
  content : Bytes
  deriving DecidableEq, Repr

namespace Extension

/-- Takes a truth value if there is one. -/
def flag : Der Bool := do
  if ← comes 0x01 then
    match ← value 0x01 with
    | [0xff] => return true
    | [0x00] => return false
    | _ => failure
  else return false

/-- Takes what stands in an extension. -/
def reader : Der Extension := do
  let name ← value nameTag
  let critical ← flag
  let content ← value octetsTag
  return { name, critical, content }

/-- The number of an extension among those that belong to all certificates. -/
def number? (e : Extension) : Option UInt8 :=
  match e.name with
  | [0x55, 0x1d, n] => some n
  | _ => none

/-- The number of the extension about the uses of the key, whose value is no list. -/
def keyUsage : UInt8 := 15

/-- The number of the extension about policies.  It asks nothing of a reader that accepts any
policy. -/
def policies : UInt8 := 32

/-- The numbers of the extensions that are read: the uses of the key, the other names of the
subject, whether it may sign certificates and for which names, where revocations are listed, and
what the certificate is for. -/
def known : List UInt8 := [keyUsage, 17, 19, 30, 31, 37]

/-- The numbers of the known extensions so far, after one more extension.  Each may come once. -/
def note (seen : List UInt8) (e : Extension) : Except TlsFault (List UInt8) :=
  match e.number?.filter known.contains with
  | some n =>
    if n ∈ seen then .error .repeatedExtension
    else if n = keyUsage ∨ (whole? (value listTag) e.content).isSome then .ok (n :: seen)
    else .error .certificateEncoding
  | none =>
    if e.critical ∧ e.number? ≠ some policies then .error .criticalExtension else .ok seen

/-- Takes extensions as long as there are any.  The number bounds them. -/
def noteUpTo : Nat → List UInt8 → Parts Unit
  | 0, _ => return ()
  | count + 1, seen => do
    if (← get) = [] then return ()
    let seen ← within listTag .certificateEncoding do note seen (← reader)
    noteUpTo count seen

end Extension

/-- Takes the extensions, which may be left out. -/
def extensions : Parts Unit := do
  if (← get) = [] then return ()
  within (partTag 3) .certificateEncoding do
    within listTag .certificateEncoding do
      Extension.noteUpTo (← get).length []

/-! ## Certificates as a whole -/

/-- Takes who signed, from when to when and for whom, and what the public key list holds. -/
def subjectReader : Der Bytes := do
  let _issuer ← value listTag
  let _validity ← value listTag
  let _subject ← value listTag
  value listTag

/-- Takes the signed part of a certificate.  It names the same algorithm as the signature. -/
def signedPart (algorithm : Bytes) : Parts Bytes := do
  version
  let _serial ← value integerTag
  if (← value listTag) ≠ algorithm then throw .signatureAlgorithm
  let key ← subjectReader
  extensions
  return key

/-- The parts of a certificate: what is signed, how, and the signature. -/
def parts : Der (Bytes × Bytes) :=
  nested listTag do
    let signed ← value listTag
    let algorithm ← value listTag
    let _ ← wholeBytes
    return (signed, algorithm)

/-- Takes the public key of a certificate of the first version. -/
def firstVersion : Der Bytes :=
  nested listTag do
    let key ← nested listTag do
      let _serial ← value integerTag
      let _signature ← value listTag
      subjectReader
    let _ ← value listTag
    let _ ← value bitsTag
    return key

/-- What stands in the public key of a certificate of the third version. -/
def publicKey (certificate : Bytes) : Except TlsFault Bytes := do
  let (signed, algorithm) ← (whole? parts certificate).elim (throw .certificateEncoding) pure
  let (key, left) ← signedPart algorithm signed
  if left = [] then return key else throw .certificateEncoding

/-- A certificate that others can be traced back to may also be of the first version. -/
def checkRoot (certificate : Bytes) : Except TlsFault Unit :=
  match publicKey certificate with
  | .error .certificateVersion =>
    if (whole? firstVersion certificate).isSome then .ok () else .error .certificateEncoding
  | .error e => .error e
  | .ok _ => .ok ()

end Certificate

end MariaClient.Tls
