import MariaClient.Text.Visible

/-!
# Quoted texts

A text between quotes, as messages show it.
-/

namespace MariaClient.Text

/-- A character between quotes.  Quotes, backslashes and the ends of lines are escaped, and a
character that could not be seen is shown by its number. -/
def quotedChar : Char → List Char
  | '"' => ['\\', '"']
  | '\\' => ['\\', '\\']
  | '\n' => ['\\', 'n']
  | '\r' => ['\\', 'r']
  | '\t' => ['\\', 't']
  | '\x00' => ['\\', '0']
  | c => if isVisible c then [c] else ['\\', 'u', '{'] ++ Nat.toDigits 16 c.toNat ++ ['}']

/-- A text between quotes. -/
def quoted (s : String) : String :=
  String.ofList ('"' :: s.toList.flatMap quotedChar ++ ['"'])

end MariaClient.Text
