import MariaClient.ResultSet

/-!
# Printing rows

Rows as a table whose columns are as wide as their widest cell, or as a list of JSON objects.
-/

namespace MariaClient.CommandLine

/-- A text with blanks behind it up to a width in characters. -/
def pad (width : Nat) (s : String) : String :=
  s ++ String.ofList (List.replicate (width - s.length) ' ')

/-- The widths of the columns of some lines. -/
def widths (header : List String) (lines : List (List String)) : List Nat :=
  lines.foldl (fun ws line ↦ List.zipWith max ws (line.map (·.length))) (header.map (·.length))

/-- A line of a table. -/
def tableLine (ws : List Nat) (line : List String) : String :=
  String.intercalate " │ " (List.zipWith pad ws line) ++ "\n"

/-- The line under the header of a table. -/
def tableRule (ws : List Nat) : String :=
  String.intercalate "─┼─" (ws.map fun w ↦ String.ofList (List.replicate w '─')) ++ "\n"

/-- Rows under their header as a table. -/
def table (header : List String) (lines : List (List String)) : String :=
  let ws := widths header lines
  tableLine ws header ++ tableRule ws ++ String.join (lines.map (tableLine ws)) ++
    "(" ++ Text.ofNat 0 lines.length ++ " rows)\n"

/-- The rows of a result as a table.  Nothing is read of a result without columns. -/
def printTable (rs : ResultSet) : Except Error String := do
  if rs.columns = [] then return "(no result set)\n"
  let rows ← rs.values
  return table (rs.columns.map (·.name)) (rows.map fun row ↦ row.map (·.text))

/-- The rows of a result as a list of objects. -/
def printJson (rs : ResultSet) : Except Error String := do
  let rows ← rs.values
  let names := rs.columns.map (·.name)
  let objects := rows.map fun row ↦ Json.ofMembers (names.zip (row.map (·.toWideJson)))
  return String.ofList ((Json.array objects).pretty 0) ++ "\n"

end MariaClient.CommandLine
