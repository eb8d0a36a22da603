import MariaClient.Text.Digits
import MariaClient.Text.Parse
import MariaClient.Text.Split

/-!
# Names of servers

A server that proves who it is does so under its name or under its address.
-/

namespace MariaClient.Tls.ServerName

open Text

/-! ## Names -/

/-- The characters of a label. -/
def labelChar (c : Char) : Bool :=
  c.isAlphanum || c == '-' || c == '_'

/-- A label has 1 to 63 characters, and no hyphen at either end. -/
def isLabel (label : List Char) : Bool :=
  label.all labelChar && label ≠ [] && label.length ≤ 63 &&
    label.head? != some '-' && label.getLast? != some '-'

/-- The labels of a name.  A dot at the end is left out. -/
def labels (name : List Char) : List (List Char) :=
  match (pieces '.' name).reverse with
  | [] :: rest => rest.reverse
  | all => all.reverse

/-- A name of at most 253 characters whose last label is not a number. -/
def isName (name : List Char) : Bool :=
  name.length ≤ 253 && labels name ≠ [] && (labels name).all isLabel &&
    !((labels name).getLast?.getD []).all Char.isDigit

/-! ## Addresses -/

/-- Takes a number below 256 without zeros in front. -/
def octet : Parse Nat := do
  let ds ← Parse.span1 Char.isDigit
  if ds.length ≤ 3 ∧ value ds < 256 ∧ (ds.head? = some '0' → ds = ['0']) then return value ds
  else failure

/-- Takes four numbers with dots between them. -/
def version4 : Parse Unit := do
  let _ ← octet
  discard (Parse.exactly (do Parse.exact ['.']; octet) 3)

/-- A digit to the base of sixteen. -/
def isHexDigit (c : Char) : Bool :=
  c.isDigit || ('a' ≤ c && c ≤ 'f') || ('A' ≤ c && c ≤ 'F')

/-- Takes a group of one to four digits. -/
def group : Parse Unit := do
  let _ ← Parse.char isHexDigit
  discard (Parse.upTo (Parse.char isHexDigit) 3)

/-- Takes a colon unless it stands in front of the first group. -/
def separator (first : Bool) : Parse Unit :=
  if first then return () else Parse.exact [':']

/-- Takes up to `limit` groups with colons between them.  An address of version 4 may stand for
the last two.  Gives the number of groups, and whether such an address was one of them. -/
def groups (first : Bool) : Nat → Parse (Nat × Bool)
  | 0 => return (0, false)
  | limit + 1 => do
    let embedded ← if limit = 0 then pure none else Parse.opt (do separator first; version4)
    if embedded.isSome then return (2, true)
    match ← Parse.opt (do separator first; group) with
    | none => return (0, false)
    | some () =>
      let (count, embedded) ← groups false limit
      return (count + 1, embedded)

/-- Takes eight groups, or fewer with two colons in the place of the missing ones. -/
def version6 : Parse Unit := do
  let (front, embedded) ← groups true 8
  if front = 8 then return ()
  if embedded then failure
  Parse.exact [':', ':']
  discard (groups true (7 - front))

/-- An address of either version. -/
def isAddress (s : List Char) : Bool :=
  (Parse.whole? version4 s).isSome || (Parse.whole? version6 s).isSome

/-- A name or an address. -/
def isValid (host : String) : Bool :=
  isName host.toList || isAddress host.toList

end MariaClient.Tls.ServerName
