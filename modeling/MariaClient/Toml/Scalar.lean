import MariaClient.Calendar
import MariaClient.Floating.Text
import MariaClient.Text.Parse
import MariaClient.Toml.Document

/-!
# Scalars of TOML documents

Strings of four kinds, numbers, truth values, and dates and times.
-/

namespace MariaClient.Toml

open Text

/-! ## Space -/

/-- A character of a line: no control character but the tab. -/
def isLineChar (c : Char) : Bool :=
  c == '\t' || (0x20 ≤ c.toNat && c.toNat != 0x7F)

/-- Space within a line. -/
def isSpace (c : Char) : Bool :=
  c == ' ' || c == '\t'

/-- Takes the space within a line. -/
def space : Parse Unit :=
  discard (Parse.span isSpace)

/-- Takes the end of a line. -/
def newLine : Parse Unit :=
  Parse.exact ['\n'] <|> Parse.exact ['\r', '\n']

/-! ## Strings -/

/-- The number that a digit stands for to a base of up to sixteen. -/
def digitOf (base : Nat) (c : Char) : Option Nat :=
  let n := c.toLower.toNat
  let d := if c.isDigit then n - 48 else if 97 ≤ n then n - 87 else base
  if d < base then some d else none

/-- The number of some digits to a base. -/
def ofDigits (base : Nat) (ds : List Char) : Nat :=
  ds.foldl (fun n c ↦ n * base + (digitOf base c).getD 0) 0

/-- Takes the character whose number so many digits give. -/
def numbered (count : Nat) : Parse Char := do
  let n := ofDigits 16 (← Parse.exactly (Parse.char fun c ↦ (digitOf 16 c).isSome) count)
  if n.isValidChar then return Char.ofNat n else failure

/-- Takes what stands for a character after a backslash. -/
def escaped : Parse Char := do
  Parse.exact ['\\']
  match ← Parse.char fun _ ↦ true with
  | 'b' => return Char.ofNat 0x08
  | 't' => return '\t'
  | 'n' => return '\n'
  | 'f' => return Char.ofNat 0x0C
  | 'r' => return '\r'
  | '"' => return '"'
  | '\\' => return '\\'
  | 'u' => numbered 4
  | 'U' => numbered 8
  | _ => failure

/-- Takes a character of a string that may hold escapes. -/
def basicChar : Parse Char :=
  escaped <|> Parse.char fun c ↦ isLineChar c && c != '"' && c != '\\'

/-- Takes a character of a string without escapes. -/
def literalChar : Parse Char :=
  Parse.char fun c ↦ isLineChar c && c != '\''

/-- Takes a string of one line. -/
def lineString (quote : Char) (item : Parse Char) : Parse String := do
  Parse.exact [quote]
  let cs ← Parse.many item
  Parse.exact [quote]
  return String.ofList cs

/-- Takes a backslash that hides the end of its line and all space after it. -/
def hiddenBreak : Parse Unit := do
  Parse.exact ['\\']
  space
  newLine
  discard (Parse.many (newLine <|> discard (Parse.char isSpace)))

/-- Takes one or two quotes that do not end a string of several lines. -/
def innerQuotes (quote : Char) : Parse (List Char) := do
  let run ← Parse.span1 (· == quote)
  if run.length ≤ 2 then return run else failure

/-- Takes the three quotes that end a string, and one or two before them that belong to it. -/
def closingQuotes (quote : Char) : Parse (List Char) := fun s ↦
  let count := (s.takeWhile (· == quote)).length
  if count < 3 then none
  else
    let inner := min (count - 3) 2
    some (List.replicate inner quote, s.drop (3 + inner))

/-- Takes a string of several lines.  A line's end right after the opening quotes is no part of
it, and every other one counts as a single character. -/
def blockString (quote : Char) (item : Parse (List Char)) : Parse String := do
  Parse.exact [quote, quote, quote]
  discard (Parse.opt newLine)
  let pieces ← Parse.many (item <|> (do newLine; return ['\n']) <|> innerQuotes quote)
  let closing ← closingQuotes quote
  return String.ofList (pieces.flatten ++ closing)

/-- Takes a string of one line. -/
def shortString : Parse String :=
  lineString '"' basicChar <|> lineString '\'' literalChar

/-- Takes a string. -/
def string : Parse String :=
  blockString '"' ((do return [← basicChar]) <|> do hiddenBreak; return []) <|>
    blockString '\'' (do return [← literalChar]) <|> shortString

/-! ## Numbers -/

/-- Takes digits that may have single underscores between them. -/
def digitRun (digit : Char → Bool) : Parse (List Char) := do
  let first ← Parse.char digit
  return first ::
    (← Parse.many (Parse.char digit <|> do Parse.exact ['_']; Parse.char digit))

/-- Takes the sign of a number. -/
def sign : Parse (List Char) := do
  return (← Parse.opt (Parse.char fun c ↦ c == '+' || c == '-')).toList

/-- Takes the digits of a whole number.  None but zero begins with a zero. -/
def wholeDigits : Parse (List Char) :=
  (do Parse.exact ['0']; return ['0']) <|> digitRun Char.isDigit

/-- Takes a whole number to a base that a letter tells. -/
def based (mark : Char) (base : Nat) : Parse Int := do
  Parse.exact ['0', mark]
  let n := ofDigits base (← digitRun fun c ↦ (digitOf base c).isSome)
  if fitsSigned 64 n then return n else failure

/-- Takes a whole number to the base of ten. -/
def decimalInteger : Parse Int := do
  let ds := (← sign) ++ (← wholeDigits)
  match signedWord? 64 ds with
  | some n => return n
  | none => failure

/-- Takes a whole number. -/
def integer : Parse Int :=
  based 'x' 16 <|> based 'o' 8 <|> based 'b' 2 <|> decimalInteger

/-- Takes the exponent of a number. -/
def exponent : Parse (List Char) := do
  discard (Parse.char fun c ↦ c == 'e' || c == 'E')
  return 'e' :: (← sign) ++ (← digitRun Char.isDigit)

/-- Takes the fraction of a number. -/
def fraction : Parse (List Char) := do
  Parse.exact ['.']
  return '.' :: (← digitRun Char.isDigit)

/-- Takes a number with a fraction or an exponent.  It has to be less than infinity. -/
def decimalFloat : Parse (List Char) := do
  let head := (← sign) ++ (← wholeDigits)
  let tail ← exponent <|> do
    let part ← fraction
    return part ++ (← Parse.opt exponent).getD []
  let text := head ++ tail
  if Floating.parse? .double text = some Floating.Format.double.infinity then failure
  else return text

/-- Takes an infinity or what is no number. -/
def specialFloat : Parse (List Char) := do
  let s ← sign
  (do Parse.exact ['i', 'n', 'f']; return s ++ ['i', 'n', 'f']) <|>
    (do Parse.exact ['n', 'a', 'n']; return s ++ ['n', 'a', 'n'])

/-- Takes a floating point number. -/
def float : Parse String := do
  return String.ofList (← decimalFloat <|> specialFloat)

/-- Takes a truth value. -/
def boolean : Parse Bool :=
  (do Parse.exact ['t', 'r', 'u', 'e']; return true) <|>
    (do Parse.exact ['f', 'a', 'l', 's', 'e']; return false)

/-! ## Dates and times -/

/-- Takes a number of so many digits that lies within bounds. -/
def fixedNumber (count low high : Nat) : Parse Nat := do
  let n := Text.value (← Parse.exactly (Parse.char Char.isDigit) count)
  if low ≤ n ∧ n ≤ high then return n else failure

/-- Takes a date and gives its text. -/
def date : Parse (List Char) := do
  let year ← fixedNumber 4 0 9999
  Parse.exact ['-']
  let month ← fixedNumber 2 1 12
  Parse.exact ['-']
  let day ← fixedNumber 2 1 (Calendar.daysInMonth year month)
  return padded 4 year ++ '-' :: padded 2 month ++ '-' :: padded 2 day

/-- The fraction of a second in its shortest form, of nine digits at most. -/
def secondFraction (ds : List Char) : List Char :=
  match ((ds.take 9).reverse.dropWhile (· == '0')).reverse with
  | [] => []
  | ds => '.' :: ds

/-- Takes a time of day and gives its text. -/
def clock : Parse (List Char) := do
  let hour ← fixedNumber 2 0 23
  Parse.exact [':']
  let minute ← fixedNumber 2 0 59
  Parse.exact [':']
  let second ← fixedNumber 2 0 60
  let part ← Parse.opt do Parse.exact ['.']; Parse.span1 Char.isDigit
  return padded 2 hour ++ ':' :: padded 2 minute ++ ':' :: padded 2 second ++
    secondFraction (part.getD [])

/-- Takes the distance from universal time and gives its text. -/
def offset : Parse (List Char) :=
  (do discard (Parse.char fun c ↦ c == 'Z' || c == 'z'); return ['Z']) <|> do
    let s ← Parse.char fun c ↦ c == '+' || c == '-'
    let hour ← fixedNumber 2 0 23
    Parse.exact [':']
    let minute ← fixedNumber 2 0 59
    let s := if hour = 0 ∧ minute = 0 then '+' else s
    return s :: padded 2 hour ++ ':' :: padded 2 minute

/-- Takes a date, a time or both and gives its text. -/
def moment : Parse String := do
  let text ← (do
    let day ← date
    let time ← Parse.opt do
      discard (Parse.char fun c ↦ c == 'T' || c == 't' || c == ' ')
      return 'T' :: (← clock) ++ (← Parse.opt offset).getD []
    return day ++ time.getD []) <|> clock
  return String.ofList text

/-- Takes a value that holds no others. -/
def scalar : Parse Item :=
  (do return .string (← string)) <|> (do return .moment (← moment)) <|>
    (do return .float (← float)) <|> (do return .integer (← integer)) <|>
    (do return .boolean (← boolean))

end MariaClient.Toml
