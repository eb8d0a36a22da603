import MariaClient.Error
import MariaClient.Text.Split
import MariaClient.Wire.Bytes

/-!
# Files

Files and directories under their paths.  A directory is there if it is listed or if something
lies in it.
-/

namespace MariaClient

open Wire

/-- The names that lead to a file from the outermost directory. -/
abbrev Place := List String

/-- The files there are, and the directories that may be empty. -/
structure Files where
  files : List (Place × Bytes) := []
  directories : List Place := []
  deriving DecidableEq, Repr

namespace Files

/-- What there may be at a place. -/
inductive Entry
  | file (bytes : Bytes)
  | directory
  deriving DecidableEq, Repr

/-- Something lies at a place or in it. -/
def holds (place other : Place) : Bool :=
  place.isPrefixOf other

/-- What there is at a place.  The outermost directory is always there. -/
def entry? (fs : Files) (place : Place) : Option Entry :=
  match fs.files.lookup place with
  | some bytes => some (.file bytes)
  | none =>
    if place = [] || fs.directories.any (holds place) ||
        fs.files.any fun (other, _) ↦ holds place other then
      some .directory
    else none

/-- The place to which one name of a path leads. -/
def step (place : Place) (name : String) : Place :=
  if name = "" ∨ name = "." then place
  else if name = ".." then place.dropLast
  else place ++ [name]

/-- The most bytes in a name. -/
def nameLimit : Nat := 255

/-- Follows one name of a path.  Only directories can be left for another place. -/
def follow (fs : Files) (place : Place) (name : String) : Except IoFault Place :=
  match fs.entry? place with
  | some .directory =>
    if nameLimit < name.utf8ByteSize then .error .longName else .ok (step place name)
  | some (.file _) => .error .notDirectory
  | none => .error .notFound

/-- The names in a path. -/
def names (path : String) : List String :=
  (Text.pieces '/' path.toList).map String.ofList

/-- The place to which a path leads if all names but the last are directories. -/
def placeOf (path : String) : Place :=
  (names path).foldl step []

/-- What there is under a path. -/
def find (fs : Files) (path : String) : Except IoFault (Place × Entry) := do
  if path.contains (Char.ofNat 0) then throw .nulInName
  if path = "" then throw .notFound
  let place ← (names path).foldlM fs.follow []
  match fs.entry? place with
  | some entry => return (place, entry)
  | none => throw .notFound

/-- There is something under a path. -/
def exists? (fs : Files) (path : String) : Bool :=
  (fs.find path).isOk

/-- The bytes of a file. -/
def read (fs : Files) (path : String) : Except IoFault Bytes := do
  match ← fs.find path with
  | (_, .file bytes) => return bytes
  | (_, .directory) => throw .isDirectory

/-- The text of a file. -/
def readText (fs : Files) (path : String) : Except IoFault String := do
  let bytes ← fs.read path
  let text := Text.decode bytes
  if Text.encode text = bytes then return text else throw .invalidText

/-- The names in a directory, each once. -/
def list (fs : Files) (path : String) : Except IoFault (List String) := do
  match ← fs.find path with
  | (place, .directory) =>
    let places := fs.files.map (·.1) ++ fs.directories
    let inside := (places.filter (holds place)).filterMap fun p ↦ (p.drop place.length).head?
    return inside.eraseDups
  | (_, .file _) => throw .notDirectory

/-- The path of something in a directory. -/
def join (directory name : String) : String :=
  if name.toList.head? = some '/' then name
  else if directory.toList.getLast? = some '/' then directory ++ name
  else directory ++ "/" ++ name

/-- The part of a file's name after its last dot.  A dot in front does not count. -/
def extension? (name : String) : Option String :=
  match Text.splitLast '.' name.toList with
  | some (_ :: _, ext) => some (String.ofList ext)
  | _ => none

end Files

end MariaClient
