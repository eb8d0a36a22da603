import MariaClient.Text.Digits

/-!
# TOML documents

The values of a TOML document and the rules by which its lines build tables.  A table may be
opened by its own header only once, and keys with dots may not reach into a table that a header
has opened.
-/

namespace MariaClient.Toml

/-- How a table came to be: written in braces, opened by its own header, implied by a longer
header, or implied by a key with dots. -/
inductive Origin
  | inline
  | header
  | implied
  | dotted
  deriving DecidableEq, Repr

/-- A value of a document.  Of dates and of floating point numbers only the text is kept. -/
inductive Item
  | string (s : String)
  | integer (n : Int)
  | float (text : String)
  | boolean (b : Bool)
  | moment (text : String)
  | array (items : List Item)
  | table (origin : Origin) (members : List (String × Item))
  | tables (items : List Item)

/-- The members of a table in the order in which they were written. -/
abbrev Members := List (String × Item)

namespace Members

/-- The value under a name. -/
def get? (name : String) : Members → Option Item
  | [] => none
  | (other, item) :: rest => if name = other then some item else get? name rest

/-- The members with another value under a name, at the end if the name is new. -/
def put (name : String) (item : Item) : Members → Members
  | [] => [(name, item)]
  | (other, old) :: rest =>
    if name = other then (name, item) :: rest else (other, old) :: put name item rest

/-- The members without a name. -/
def erase (name : String) (members : Members) : Members :=
  members.filter fun m ↦ m.1 != name

/-- A table found or implied on the way to a key: its origin and its members.  Keys with dots
pass only through tables that no header has opened. -/
def enter (dotted : Bool) : Option Item → Option (Origin × Members)
  | none => some (if dotted then .dotted else .implied, [])
  | some (.table .inline _) => none
  | some (.table .header members) => if dotted then none else some (.header, members)
  | some (.table origin members) => some (origin, members)
  | some _ => none

/-- Changes the table at the end of a path, through the last one of each array of tables. -/
def update (dotted : Bool) (change : Origin → Members → Option Members) :
    List String → Origin → Members → Option Members
  | [], origin, members => change origin members
  | key :: path, _, members =>
    match get? key members with
    | some (.tables items) =>
      match items.getLast? with
      | some (.table origin inner) => do
        let inner ← update dotted change path origin inner
        return put key (.tables (items.dropLast ++ [.table origin inner])) members
      | _ => none
    | found => do
      let (origin, inner) ← enter dotted found
      let inner ← update dotted change path origin inner
      return put key (.table origin inner) members

/-- Gives a table a new member under a key with dots.  The table at the end of the dots has to be
one that only such keys have made. -/
def assign (path : List String) (name : String) (item : Item) (origin : Origin)
    (members : Members) : Option Members :=
  update true (fun last inner ↦
    if path ≠ [] ∧ last ≠ .dotted then none
    else if (get? name inner).isSome then none
    else some (inner ++ [(name, item)])) path origin members

end Members

/-- A line of a document that tells something. -/
inductive Line
  | assign (path : List String) (name : String) (item : Item)
  | header (path : List String) (name : String)
  | arrayHeader (path : List String) (name : String)

/-- The tables built so far and the table whose lines are being read. -/
structure Builder where
  root : Members := []
  path : List String := []
  name : Option String := none
  inArray : Bool := false
  current : Members := []

namespace Builder

/-- Puts the table whose lines were read into its place. -/
def close (b : Builder) : Option Members :=
  match b.name with
  | none => some b.current
  | some name =>
    let table := Item.table .header b.current
    Members.update false (fun _ inner ↦
      match b.inArray, Members.get? name inner with
      | true, none => some (inner ++ [(name, .tables [table])])
      | true, some (.tables items) => some (Members.put name (.tables (items ++ [table])) inner)
      | false, none => some (inner ++ [(name, table)])
      | _, _ => none) b.path .header b.root

/-- The members of a table that its own header may still open. -/
def reopen : Option Item → Option Members
  | none => some []
  | some (.table .implied members) => some members
  | some _ => none

/-- Looks at the place that a header names. -/
def look (root : Members) (path : List String) (name : String) (inArray : Bool) :
    Option (Members × Members) := do
  let place (inner : Members) : Option Members :=
    if inArray then
      match Members.get? name inner with
      | none => some []
      | some (.tables _) => some []
      | some _ => none
    else reopen (Members.get? name inner)
  let rec find : List String → Members → Option Members
    | [], members => place members
    | key :: path, members =>
      match Members.get? key members with
      | some (.tables items) =>
        match items.getLast? with
        | some (.table _ inner) => find path inner
        | _ => none
      | found => do
        let (_, inner) ← Members.enter false found
        find path inner
  let current ← find path root
  let root ←
    if inArray then some root
    else Members.update false (fun _ inner ↦ some (Members.erase name inner)) path .header root
  return (root, current)

/-- Goes on with a line. -/
def add (b : Builder) : Line → Option Builder
  | .assign path name item => do
    let current ← Members.assign path name item .header b.current
    return { b with current }
  | .header path name => do
    let (root, current) ← look (← b.close) path name false
    return { root, path, name := some name, inArray := false, current }
  | .arrayHeader path name => do
    let (root, current) ← look (← b.close) path name true
    return { root, path, name := some name, inArray := true, current }

/-- The members of the document that some lines make. -/
def build (lines : List Line) : Option Members := do
  let b ← lines.foldlM add {}
  b.close

end Builder

/-- The table that some keys with dots make inside braces. -/
def inlineTable (assignments : List (List String × String × Item)) : Option Item := do
  let members ← assignments.foldlM
    (fun members (path, name, item) ↦ Members.assign path name item .inline members) []
  return .table .inline members

end MariaClient.Toml
