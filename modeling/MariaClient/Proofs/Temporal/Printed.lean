import MariaClient.Proofs.Text.Padded
import MariaClient.Temporal.Reader

/-!
# Reading what is printed

Dates and times in the form in which servers print them: each number has its least width, and the
fraction of a second is any run of digits or is left out.  The readers give the numbers back.
-/

namespace MariaClient.Temporal.Reader

open Text

variable {ds s : List Char} {least n year month day hour minute second : Nat}

/-! ## Numbers -/

/-- A text that does not go on with a digit. -/
def NoDigit (s : List Char) : Prop :=
  s.takeWhile Char.isDigit = []

theorem noDigit_nil : NoDigit [] := rfl

theorem noDigit_cons {c : Char} (h : c.isDigit = false) : NoDigit (c :: s) :=
  List.takeWhile_cons_of_neg (by rw [h]; exact Bool.false_ne_true)

theorem NoDigit.dropWhile (h : NoDigit s) : s.dropWhile Char.isDigit = s := by
  have hsplit := List.takeWhile_append_dropWhile (p := Char.isDigit) (l := s)
  rwa [h, List.nil_append] at hsplit

theorem number?_digits (hds : ∀ c ∈ ds, c.isDigit = true) (hlength : least ≤ ds.length)
    (hvalue : value ds < 2 ^ 32) (hs : NoDigit s) :
    number? least (ds ++ s) = some (value ds, s) := by
  have htake : (ds ++ s).takeWhile Char.isDigit = ds := by
    rw [List.takeWhile_append_of_pos hds, hs, List.append_nil]
  have hdrop : (ds ++ s).dropWhile Char.isDigit = s := by
    rw [List.dropWhile_append_of_pos hds, hs.dropWhile]
  rw [number?, htake, hdrop]
  exact if_pos ⟨hlength, hvalue⟩

theorem number?_padded {width : Nat} (hwidth : least ≤ width) (hn : n < 2 ^ 32) (hs : NoDigit s) :
    number? least (padded width n ++ s) = some (n, s) := by
  have hnumber : number? least (padded width n ++ s) = some (value (padded width n), s) :=
    number?_digits (fun _ ↦ isDigit_padded) (Nat.le_trans hwidth (le_length_padded width n))
      (by rwa [value_padded]) hs
  rwa [value_padded] at hnumber

/-- Nothing stands before a number that is a pad. -/
theorem dropWhile_isPad_padded {width : Nat} (hwidth : 0 < width) :
    (padded width n ++ s).dropWhile isPad = padded width n ++ s := by
  cases hp : padded width n with
  | nil =>
    have hlength := le_length_padded width n
    rw [hp] at hlength
    exact absurd hwidth (Nat.not_lt.2 hlength)
  | cons c cs =>
    have hdigit : c.isDigit = true := isDigit_padded (hp ▸ List.mem_cons_self)
    refine List.dropWhile_cons_of_neg ?_
    rintro hpad
    rcases Bool.or_eq_true_iff.1 hpad with hc | hc
    · rw [beq_iff_eq.1 hc] at hdigit
      cases hdigit
    · rw [beq_iff_eq.1 hc] at hdigit
      cases hdigit

/-! ## Times -/

/-- The hours, minutes and seconds of a time. -/
def clockText (hour minute second : Nat) : List Char :=
  padded 2 hour ++ ':' :: (padded 2 minute ++ ':' :: padded 2 second)

/-- The digits of the fraction of a second behind a point, if there are any. -/
def fractionText : List Char → List Char
  | [] => []
  | ds => '.' :: ds

theorem noDigit_fractionText : NoDigit (fractionText ds) := by
  cases ds with
  | nil => exact noDigit_nil
  | cons d ds => exact noDigit_cons rfl

theorem timeFields?_printed (hhour : hour < 2 ^ 32) (hminute : minute < 2 ^ 32)
    (hsecond : second < 2 ^ 32) (hds : ∀ c ∈ ds, c.isDigit = true) (hvalue : value ds < 2 ^ 32) :
    timeFields? (clockText hour minute second ++ fractionText ds) =
      some ({ hour, minute, second, millisecond := value ds }, []) := by
  have hm (s : List Char) (hs : NoDigit s) :
      nextField? (':' :: (padded 2 minute ++ s)) = some (minute, s) :=
    number?_padded (by decide) hminute hs
  have hs (s : List Char) (hs : NoDigit s) :
      nextField? (':' :: (padded 2 second ++ s)) = some (second, s) :=
    number?_padded (by decide) hsecond hs
  have htext : clockText hour minute second ++ fractionText ds =
      padded 2 hour ++ ':' :: (padded 2 minute ++ ':' :: (padded 2 second ++ fractionText ds)) := by
    simp only [clockText, List.append_assoc, List.cons_append]
  rw [htext, timeFields?, dropWhile_isPad_padded (by decide),
    number?_padded (by decide) hhour (noDigit_cons rfl), Option.bind_eq_bind, Option.bind_some]
  dsimp only
  rw [hm _ (noDigit_cons rfl)]
  dsimp only
  rw [hs _ noDigit_fractionText]
  cases ds with
  | nil => rfl
  | cons d ds =>
    have hnumber : number? 1 (d :: ds ++ []) = some (value (d :: ds), []) :=
      number?_digits hds (Nat.le_add_left 1 ds.length) hvalue noDigit_nil
    rw [List.append_nil] at hnumber
    have hfraction : nextField? (fractionText (d :: ds)) = some (value (d :: ds), []) := hnumber
    dsimp only
    rw [hfraction]
    rfl

/-- A time is read as it was printed. -/
theorem time_printed (hhour : hour < 2 ^ 32) (hminute : minute < 2 ^ 32)
    (hsecond : second < 2 ^ 32) (hds : ∀ c ∈ ds, c.isDigit = true) (hvalue : value ds < 2 ^ 32) :
    time (String.ofList (clockText hour minute second ++ fractionText ds)) =
      .ok { hour, minute, second, millisecond := value ds } := by
  rw [time, String.toList_ofList, timeFields?_printed hhour hminute hsecond hds hvalue]
  rfl

/-- A time with a sign in front is none. -/
theorem time_signed (s : List Char) :
    time (String.ofList ('-' :: s)) = .error (.format .time (String.ofList ('-' :: s))) := by
  rw [time, String.toList_ofList]
  rfl

/-! ## Dates -/

/-- A date. -/
def dateText (year month day : Nat) : List Char :=
  padded 4 year ++ '-' :: (padded 2 month ++ '-' :: padded 2 day)

/-- A date is read up to its end, or up to what follows it. -/
theorem dateFields?_eq (hyear : year < 2 ^ 32) (hmonth : month < 2 ^ 32) (hday : day < 2 ^ 32)
    (hs : NoDigit s) :
    dateFields? (dateText year month day ++ s) =
      if allBlank s then some ({ year, month, day }, s)
      else do
        let s ← timeMark? s
        let (time, s) ← timeFields? s
        return ({ year, month, day, time }, s) := by
  have hmo (s : List Char) (hs : NoDigit s) :
      nextField? ('-' :: (padded 2 month ++ s)) = some (month, s) :=
    number?_padded (by decide) hmonth hs
  have hd (s : List Char) (hs : NoDigit s) :
      nextField? ('-' :: (padded 2 day ++ s)) = some (day, s) :=
    number?_padded (by decide) hday hs
  have htext : dateText year month day ++ s =
      padded 4 year ++ '-' :: (padded 2 month ++ '-' :: (padded 2 day ++ s)) := by
    simp only [dateText, List.append_assoc, List.cons_append]
  rw [htext, dateFields?, dropWhile_isPad_padded (by decide),
    number?_padded (by decide) hyear (noDigit_cons rfl), Option.bind_eq_bind, Option.bind_some]
  dsimp only
  rw [hmo _ (noDigit_cons rfl)]
  dsimp only
  rw [hd _ hs]
  rfl

theorem dateTime_printed_date (hyear : year < 2 ^ 32) (hmonth : month < 2 ^ 32)
    (hday : day < 2 ^ 32) :
    dateTime (String.ofList (dateText year month day)) = .ok { year, month, day } := by
  have hfields := dateFields?_eq (s := []) hyear hmonth hday noDigit_nil
  rw [List.append_nil] at hfields
  rw [dateTime, String.toList_ofList, hfields]
  rfl

theorem dateTime_printed (hyear : year < 2 ^ 32) (hmonth : month < 2 ^ 32) (hday : day < 2 ^ 32)
    (hhour : hour < 2 ^ 32) (hminute : minute < 2 ^ 32) (hsecond : second < 2 ^ 32)
    (hds : ∀ c ∈ ds, c.isDigit = true) (hvalue : value ds < 2 ^ 32) :
    dateTime (String.ofList
        (dateText year month day ++ ' ' :: (clockText hour minute second ++ fractionText ds))) =
      .ok { year, month, day,
            time := { hour, minute, second, millisecond := value ds } } := by
  have hblank : allBlank (' ' :: (clockText hour minute second ++ fractionText ds)) = false := by
    refine List.all_eq_false.2 ⟨':', ?_, Bool.false_ne_true⟩
    exact List.mem_cons_of_mem _ (List.mem_append_left _
      (List.mem_append_right _ List.mem_cons_self))
  have hmark : timeMark? (' ' :: (clockText hour minute second ++ fractionText ds)) =
      some (clockText hour minute second ++ fractionText ds) := by
    have hhead : (clockText hour minute second ++ fractionText ds).dropWhile isPad =
        clockText hour minute second ++ fractionText ds := by
      rw [clockText, List.append_assoc, dropWhile_isPad_padded (by decide)]
    exact congrArg some hhead
  rw [dateTime, String.toList_ofList, dateFields?_eq hyear hmonth hday (noDigit_cons rfl),
    if_neg (by rw [hblank]; exact Bool.false_ne_true), hmark, Option.bind_eq_bind,
    Option.bind_some, timeFields?_printed hhour hminute hsecond hds hvalue]
  rfl

end MariaClient.Temporal.Reader
