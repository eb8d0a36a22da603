import MariaClient.Text.Digits
import MariaClient.Toml.Reader

/-!
# Writing TOML

Strings and keys in the plainest form that can hold them.  A string in double quotes is the
plainest one; it may hold escapes.  A string in single quotes takes everything as it stands.
Each of them has a form with three quotes that goes over several lines.
-/

namespace MariaClient.Toml

open Text

/-- A character that only an escape by its name or number can show. -/
def needsEscape (c : Char) : Bool :=
  !isLineChar c && c != '\n'

/-- The most quotes that stand side by side in a text. -/
def longestRun (quote : Char) (s : List Char) : Nat :=
  (s.foldl (fun (run, longest) c ↦
    let run := if c = quote then run + 1 else 0
    (run, max run longest)) (0, 0)).2

/-- What the form of a string depends on. -/
structure Shape where
  escapes : Bool
  backslashes : Bool
  lines : Bool
  doubleRun : Nat
  singleRun : Nat

/-- The shape of a text. -/
def shapeOf (s : List Char) : Shape where
  escapes := s.any needsEscape
  backslashes := s.contains '\\'
  lines := s.contains '\n'
  doubleRun := longestRun '"' s
  singleRun := longestRun '\'' s

/-- The forms of a string. -/
inductive Form
  | basic
  | literal
  | basicBlock
  | literalBlock
  deriving DecidableEq, Repr

/-- The plainest form without escapes on a single line, if there is one. -/
def lineForm? (shape : Shape) : Option Form :=
  if shape.escapes || shape.lines then none
  else if !shape.backslashes && shape.doubleRun = 0 then some .basic
  else if shape.singleRun = 0 then some .literal
  else none

/-- The plainest form of a text. -/
def formOf (shape : Shape) : Form :=
  match lineForm? shape with
  | some form => form
  | none =>
    if !shape.escapes && !shape.backslashes && shape.doubleRun ≤ 2 then .basicBlock
    else if !shape.escapes && shape.singleRun ≤ 2 then .literalBlock
    else if shape.lines then .basicBlock
    else .basic

/-- A digit to the base of sixteen. -/
def upperDigit (n : Nat) : Char :=
  (Nat.digitChar n).toUpper

/-- A character in a string with escapes.  In a block the end of a line stands for itself. -/
def escapeChar (block : Bool) (c : Char) : List Char :=
  let n := c.toNat
  if n = 0x08 then ['\\', 'b']
  else if c = '\t' then ['\\', 't']
  else if c = '\n' then if block then [c] else ['\\', 'n']
  else if n = 0x0C then ['\\', 'f']
  else if c = '\r' then ['\\', 'r']
  else if c = '"' then ['\\', '"']
  else if c = '\\' then ['\\', '\\']
  else if needsEscape c then
    ['\\', 'u', '0', '0', upperDigit (n / 16), upperDigit (n % 16)]
  else [c]

/-- The characters of a block.  So many double quotes have been written side by side, and of
three the last one is escaped. -/
def blockChars : Nat → List Char → List Char
  | _, [] => []
  | quotes, c :: s =>
    if c = '"' ∧ quotes < 2 then c :: blockChars (quotes + 1) s
    else escapeChar true c ++ blockChars 0 s

/-- A text in a given form.  A block begins on a line of its own if it has several. -/
def write (form : Form) (s : List Char) : List Char :=
  let start : List Char := if s.contains '\n' then ['\n'] else []
  match form with
  | .basic => '"' :: s.flatMap (escapeChar false) ++ ['"']
  | .literal => '\'' :: s ++ ['\'']
  | .basicBlock =>
    ['"', '"', '"'] ++ start ++ blockChars 0 s ++ ['"', '"', '"']
  | .literalBlock => ['\'', '\'', '\''] ++ start ++ s ++ ['\'', '\'', '\'']

/-- A text as a string. -/
def writeString (s : String) : List Char :=
  write (formOf (shapeOf s.toList)) s.toList

/-- A key, without quotes if it can do without them. -/
def writeKey (name : String) : List Char :=
  let s := name.toList
  if s ≠ [] ∧ s.all isBare then s else write ((lineForm? (shapeOf s)).getD .basic) s

end MariaClient.Toml
