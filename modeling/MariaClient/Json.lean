import MariaClient.Dictionary
import MariaClient.Text.Digits

/-!
# JSON

Documents and their two texts: one without any space, and one with a line for every member.
-/

namespace MariaClient

open Text

/-- A JSON document.  A number is kept as its text. -/
inductive Json
  | null
  | bool (b : Bool)
  | number (text : List Char)
  | string (s : String)
  | array (items : List Json)
  | object (members : List (String × Json))

namespace Json

/-- A digit of a number to the base of sixteen. -/
def hexDigit (n : Nat) : Char :=
  Nat.digitChar n

/-- A character as it stands inside quotes.  Control characters have names or numbers. -/
def escape (c : Char) : List Char :=
  if c = '"' then ['\\', '"']
  else if c = '\\' then ['\\', '\\']
  else if c = '\n' then ['\\', 'n']
  else if c = '\r' then ['\\', 'r']
  else if c = '\t' then ['\\', 't']
  else if c.toNat = 8 then ['\\', 'b']
  else if c.toNat = 12 then ['\\', 'f']
  else if c.toNat < 32 then
    ['\\', 'u', '0', '0', hexDigit (c.toNat / 16), hexDigit (c.toNat % 16)]
  else [c]

/-- A text in quotes. -/
def quote (s : String) : List Char :=
  '"' :: s.toList.flatMap escape ++ ['"']

/-- The text of the documents that have no members. -/
def leaf : Json → List Char
  | null => ['n', 'u', 'l', 'l']
  | bool true => ['t', 'r', 'u', 'e']
  | bool false => ['f', 'a', 'l', 's', 'e']
  | number text => text
  | string s => quote s
  | array _ => ['[', ']']
  | object _ => ['{', '}']

mutual

/-- The text of a document without any space. -/
def compact : Json → List Char
  | array items => '[' :: compactItems true items ++ [']']
  | object members => '{' :: compactMembers true members ++ ['}']
  | other => leaf other

/-- The items of an array, separated by commas. -/
def compactItems (first : Bool) : List Json → List Char
  | [] => []
  | item :: rest =>
    (if first then [] else [',']) ++ compact item ++ compactItems false rest

/-- The members of an object, separated by commas. -/
def compactMembers (first : Bool) : List (String × Json) → List Char
  | [] => []
  | (name, item) :: rest =>
    (if first then [] else [',']) ++ quote name ++ ':' :: compact item ++
      compactMembers false rest

end

/-- A new line with so many steps of two spaces. -/
def newLine (depth : Nat) : List Char :=
  '\n' :: List.replicate (2 * depth) ' '

mutual

/-- The text of a document with a line for every member. -/
def pretty (depth : Nat) : Json → List Char
  | array (item :: rest) =>
    '[' :: prettyItems (depth + 1) true (item :: rest) ++ newLine depth ++ [']']
  | object (member :: rest) =>
    '{' :: prettyMembers (depth + 1) true (member :: rest) ++ newLine depth ++ ['}']
  | other => leaf other

/-- The items of an array, each on a line of its own. -/
def prettyItems (depth : Nat) (first : Bool) : List Json → List Char
  | [] => []
  | item :: rest =>
    (if first then [] else [',']) ++ newLine depth ++ pretty depth item ++
      prettyItems depth false rest

/-- The members of an object, each on a line of its own. -/
def prettyMembers (depth : Nat) (first : Bool) : List (String × Json) → List Char
  | [] => []
  | (name, item) :: rest =>
    (if first then [] else [',']) ++ newLine depth ++ quote name ++ ':' :: ' ' ::
      pretty depth item ++ prettyMembers depth false rest

end

/-- The object of some members, sorted by name.  Of members with one name the last one counts. -/
def ofMembers (members : List (String × Json)) : Json :=
  object (Dictionary.ofPairs members)

end Json

end MariaClient
