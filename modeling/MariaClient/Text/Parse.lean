/-!
# Reading texts piece by piece

A reader takes a piece off the front of a text or refuses it.  A reader that refuses takes
nothing, so another one may try.
-/

namespace MariaClient.Text

/-- Takes a value off the front of a text. -/
abbrev Parse := StateT (List Char) Option

namespace Parse

variable {α β : Type}

/-- Takes a character that passes a test. -/
def char (p : Char → Bool) : Parse Char
  | c :: s => if p c then some (c, s) else none
  | [] => none

/-- Takes a given run of characters. -/
def exact : List Char → Parse Unit
  | [], s => some ((), s)
  | c :: cs, d :: s => if c = d then exact cs s else none
  | _ :: _, [] => none

/-- Takes all characters up to the first that fails a test. -/
def span (p : Char → Bool) : Parse (List Char) :=
  fun s ↦ some (s.takeWhile p, s.dropWhile p)

/-- Takes one or more characters that pass a test. -/
def span1 (p : Char → Bool) : Parse (List Char) := do
  let cs ← span p
  if cs = [] then failure else return cs

/-- Takes a value if there is one. -/
def opt (r : Parse α) : Parse (Option α) := fun s ↦
  match r s with
  | some (a, rest) => some (some a, rest)
  | none => some (none, s)

/-- Takes as many values as there are, but at most so many. -/
def upTo (r : Parse α) : Nat → Parse (List α)
  | 0 => return []
  | n + 1 => fun s ↦
    match r s with
    | some (a, rest) => (upTo r n rest).map fun (as, rest) ↦ (a :: as, rest)
    | none => some ([], s)

/-- Takes as many values as there are.  Each of them has at least one character. -/
def many (r : Parse α) : Parse (List α) :=
  fun s ↦ upTo r s.length s

/-- Takes exactly so many values. -/
def exactly (r : Parse α) : Nat → Parse (List α)
  | 0 => return []
  | n + 1 => do return (← r) :: (← exactly r n)

/-- Takes one or more values with something between each two of them. -/
def separated (r : Parse α) (separator : Parse β) : Parse (List α) := do
  let first ← r
  return first :: (← many (do let _ ← separator; r))

/-- Reads a whole text. -/
def whole? (r : Parse α) (s : List Char) : Option α :=
  match r s with
  | some (a, []) => some a
  | _ => none

end Parse

end MariaClient.Text
