import MariaClient.Toml.Scalar

/-!
# Reading TOML documents

A document is a run of lines.  Each of them assigns a value to a key, opens a table, or holds
nothing but space and a comment.
-/

namespace MariaClient.Toml

open Text

/-- A number of nested values that no document reaches, and of parts that no key has. -/
def depthLimit : Nat := 80

/-- Takes a comment. -/
def comment : Parse Unit := do
  Parse.exact ['#']
  discard (Parse.span isLineChar)

/-- Takes space that may go over several lines, with comments. -/
def gap : Parse Unit :=
  discard (Parse.many
    (discard (Parse.char isSpace) <|> newLine <|> do comment; newLine))

/-! ## Keys -/

/-- A character of a key without quotes. -/
def isBare (c : Char) : Bool :=
  c.isAlphanum || c == '_' || c == '-'

/-- Takes one part of a key. -/
def keyPart : Parse String :=
  shortString <|> do return String.ofList (← Parse.span1 isBare)

/-- Takes a key: its last part, and the path to it if there are dots. -/
def key : Parse (List String × String) := do
  let parts ← Parse.separated
    (do
      space
      let part ← keyPart
      space
      return part)
    (Parse.exact ['.'])
  if parts.length < depthLimit then return (parts.dropLast, parts.getLastD "")
  else failure

/-! ## Values -/

/-- Takes a value after the key it is assigned to. -/
def assignment (value : Parse Item) : Parse (List String × String × Item) := do
  let (path, name) ← key
  Parse.exact ['=']
  space
  return (path, name, ← value)

/-- Takes an array.  A comma may follow the last item. -/
def array (value : Parse Item) : Parse Item := do
  Parse.exact ['[']
  let items ← Parse.opt <| do
    let items ← Parse.separated
      (do
        gap
        let item ← value
        gap
        return item)
      (Parse.exact [','])
    discard (Parse.opt (Parse.exact [',']))
    return items
  gap
  Parse.exact [']']
  return .array (items.getD [])

/-- Takes a table in braces, all on one line. -/
def bracedTable (value : Parse Item) : Parse Item := do
  Parse.exact ['{']
  let assignments ← Parse.opt <| Parse.separated
    (do
      let a ← assignment value
      space
      return a)
    (Parse.exact [','])
  space
  Parse.exact ['}']
  match inlineTable (assignments.getD []) with
  | some table => return table
  | none => failure

/-- Takes a value that holds others only to a limited depth. -/
def value : Nat → Parse Item
  | 0 => scalar
  | depth + 1 => array (value depth) <|> bracedTable (value depth) <|> scalar

/-! ## Lines -/

/-- Takes what a line tells. -/
def line : Parse Line :=
  (do
    Parse.exact ['[', '[']
    let (path, name) ← key
    Parse.exact [']', ']']
    return .arrayHeader path name) <|>
  (do
    Parse.exact ['[']
    let (path, name) ← key
    Parse.exact [']']
    return .header path name) <|>
  (do
    let (path, name, item) ← assignment (value (depthLimit - 1))
    return .assign path name item)

/-- Takes a line up to its end. -/
def lineOrNothing : Parse (Option Line) := do
  space
  let found ← Parse.opt line
  space
  discard (Parse.opt comment)
  return found

/-- Takes the lines of a document after the mark that may stand in front of them. -/
def document : Parse (List Line) := do
  discard (Parse.opt (Parse.exact [Char.ofNat 0xFEFF]))
  let lines ← Parse.separated lineOrNothing newLine
  return lines.filterMap id

/-- Reads a document. -/
def read? (s : String) : Option Members :=
  (Parse.whole? document s.toList).bind Builder.build

end MariaClient.Toml
