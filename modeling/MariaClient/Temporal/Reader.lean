import MariaClient.Text.Blank
import MariaClient.Error

/-!
# Reading dates and times

A time is one to four numbers, a date one to three, and a date with a day may be followed by a
time.  Any one character that is neither a digit nor blank separates two numbers, so that
`13:37:42.007` and `13-37-42?007` are the same time.

    time       hh[?mm[?ss[?nnn]]]
    date time  yyyy[?mm[?dd[( |T)time]]]
-/

namespace MariaClient.Temporal.Reader

open Text

/-- The numbers of a time that was read.  Those that were not written are zero. -/
structure TimeFields where
  hour : Nat
  minute : Nat := 0
  second : Nat := 0
  millisecond : Nat := 0
  deriving DecidableEq, Repr

/-- The numbers of a date that was read.  A month or a day that was not written is 1. -/
structure DateFields where
  year : Nat
  month : Nat := 1
  day : Nat := 1
  time : TimeFields := { hour := 0 }
  deriving DecidableEq, Repr

/-- Spaces and tabs may stand in front of a number where the grammar allows it. -/
def isPad (c : Char) : Bool :=
  c == ' ' || c == '\t'

/-- A character that separates two numbers. -/
def isDelimiter (c : Char) : Bool :=
  !c.isDigit && !isBlank c

/-- The longest run of digits in front, of at least `least` digits and of a number below
`2 ^ 32`, with what follows it. -/
def number? (least : Nat) (s : List Char) : Option (Nat × List Char) :=
  let run := s.takeWhile Char.isDigit
  if least ≤ run.length ∧ value run < 2 ^ 32 then some (value run, s.dropWhile Char.isDigit)
  else none

/-- A delimiter and a number. -/
def nextField? : List Char → Option (Nat × List Char)
  | c :: s => if isDelimiter c then number? 1 s else none
  | [] => none

/-- The numbers of a time, and what follows them. -/
def timeFields? (s : List Char) : Option (TimeFields × List Char) := do
  let (hour, s) ← number? 1 (s.dropWhile isPad)
  match nextField? s with
  | none => return ({ hour }, s)
  | some (minute, s) =>
    match nextField? s with
    | none => return ({ hour, minute }, s)
    | some (second, s) =>
      match nextField? s with
      | none => return ({ hour, minute, second }, s)
      | some (millisecond, s) => return ({ hour, minute, second, millisecond }, s)

/-- What follows the mark between a date and its time: one or more pads, or the letter `T` and
any pads. -/
def timeMark? : List Char → Option (List Char)
  | 'T' :: s => some (s.dropWhile isPad)
  | c :: s => if isPad c then some (s.dropWhile isPad) else none
  | [] => none

/-- The numbers of a date and of its time if it has one, and what follows them. -/
def dateFields? (s : List Char) : Option (DateFields × List Char) := do
  let (year, s) ← number? 4 (s.dropWhile isPad)
  match nextField? s with
  | none => return ({ year }, s)
  | some (month, s) =>
    match nextField? s with
    | none => return ({ year, month }, s)
    | some (day, s) =>
      if allBlank s then return ({ year, month, day }, s)
      let s ← timeMark? s
      let (time, s) ← timeFields? s
      return ({ year, month, day, time }, s)

/-- Accepts what was read if only blanks follow. -/
def whole? {α : Type} (r : Option (α × List Char)) : Option α :=
  r.bind fun (a, rest) ↦ if allBlank rest then some a else none

/-- Reads a time. -/
def time (s : String) : Except Error TimeFields :=
  match whole? (timeFields? s.toList) with
  | some t => .ok t
  | none => .error (.format .time s)

/-- Reads a date that may have a time. -/
def dateTime (s : String) : Except Error DateFields :=
  match whole? (dateFields? s.toList) with
  | some d => .ok d
  | none => .error (.format .dateTime s)

end MariaClient.Temporal.Reader
