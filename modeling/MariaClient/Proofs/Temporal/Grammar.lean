import Mathlib.Data.List.DropRight
import MariaClient.Proofs.Temporal.Printed

/-!
# The texts of dates and times

What a time and a date may look like, as trees that hold the characters of a text.  A number is a
run of digits, and what stands between two numbers is no digit, so that a run is always as long as
it can be.  `Reader.accepts` says that the readers accept the texts of these trees with blanks
behind them and nothing else, and give the numbers of the tree.
-/

namespace MariaClient.Temporal.Reader

open Text

/-! ## Trees -/

/-- A number of 32 bits, written with at least so many digits. -/
structure Number (least : Nat) where
  digits : List Char
  isDigit : ∀ c ∈ digits, c.isDigit = true
  least_le : least ≤ digits.length
  small : Text.value digits < 2 ^ 32

def Number.value {least : Nat} (n : Number least) : Nat :=
  Text.value n.digits

/-- A number behind a delimiter. -/
structure Group where
  delimiter : Char
  number : Number 1
  isDelimiter : isDelimiter delimiter = true

def Group.chars (g : Group) : List Char :=
  g.delimiter :: g.number.digits

/-- A time behind spaces and tabs: the hour, and behind it up to three numbers. -/
structure TimeText where
  pads : List Char
  hour : Number 1
  groups : List Group
  pads_isPad : ∀ c ∈ pads, isPad c = true
  length_le : groups.length ≤ 3

/-- A character that may stand between a date and its time: a space, a tab or the letter `T`. -/
def IsMark (c : Char) : Prop :=
  isPad c = true ∨ c = 'T'

/-- A date behind spaces and tabs: the year, and behind it up to two numbers.  If there are two, a
mark may follow, and then a time. -/
structure DateText where
  pads : List Char
  year : Number 4
  groups : List Group
  time : Option (Char × TimeText)
  pads_isPad : ∀ c ∈ pads, isPad c = true
  length_le : groups.length ≤ 2
  time_isMark : ∀ m ∈ time, IsMark m.1
  time_length : time.isSome = true → groups.length = 2

/-- The characters of some groups. -/
def groupChars (gs : List Group) : List Char :=
  gs.flatMap Group.chars

/-- The number of a group, if there are enough of them. -/
def numberAt (gs : List Group) (i default : Nat) : Nat :=
  (gs.map fun g ↦ g.number.value).getD i default

namespace TimeText

def chars (t : TimeText) : List Char :=
  t.pads ++ t.hour.digits ++ groupChars t.groups

def fields (t : TimeText) : TimeFields where
  hour := t.hour.value
  minute := numberAt t.groups 0 0
  second := numberAt t.groups 1 0
  millisecond := numberAt t.groups 2 0

end TimeText

namespace DateText

/-- The time behind its mark, if there is one. -/
def timeChars (d : DateText) : List Char :=
  d.time.elim [] fun m ↦ m.1 :: m.2.chars

def chars (d : DateText) : List Char :=
  d.pads ++ d.year.digits ++ groupChars d.groups ++ d.timeChars

def fields (d : DateText) : DateFields where
  year := d.year.value
  month := numberAt d.groups 0 1
  day := numberAt d.groups 1 1
  time := d.time.elim { hour := 0 } fun m ↦ m.2.fields

end DateText

variable {least k : Nat} {s rest : List Char}

/-! ## Numbers -/

theorem Number.reads (n : Number least) (hrest : NoDigit rest) :
    number? least (n.digits ++ rest) = some (n.value, rest) :=
  number?_digits n.isDigit n.least_le n.small hrest

theorem exists_number {m : Nat} (h : number? least s = some (m, rest)) :
    ∃ n : Number least, s = n.digits ++ rest ∧ n.value = m := by
  rw [number?] at h
  split at h
  next hnumber =>
    cases h
    exact ⟨⟨s.takeWhile Char.isDigit, List.all_eq_true.1 List.all_takeWhile, hnumber.1, hnumber.2⟩,
      List.takeWhile_append_dropWhile.symm, rfl⟩
  next => cases h

theorem isPad_of_isDigit {c : Char} (h : c.isDigit = true) : isPad c = false := by
  cases hpad : isPad c with
  | false => rfl
  | true =>
    rcases Bool.or_eq_true_iff.1 hpad with hc | hc
    · rw [beq_iff_eq.1 hc] at h
      cases h
    · rw [beq_iff_eq.1 hc] at h
      cases h

/-- Pads in front of a number are left out. -/
theorem dropWhile_isPad_number {pads : List Char} (hpads : ∀ c ∈ pads, isPad c = true)
    (n : Number least) (hleast : 0 < least) (rest : List Char) :
    (pads ++ (n.digits ++ rest)).dropWhile isPad = n.digits ++ rest := by
  rw [List.dropWhile_append_of_pos hpads]
  obtain ⟨c, cs, hdigits⟩ :=
    List.exists_cons_of_length_pos (Nat.lt_of_lt_of_le hleast n.least_le)
  have hpad := isPad_of_isDigit (n.isDigit c (hdigits ▸ List.mem_cons_self))
  rw [hdigits]
  exact List.dropWhile_cons_of_neg (by rw [hpad]; exact Bool.false_ne_true)

/-! ## Groups -/

/-- Takes the numbers of at most so many groups. -/
def numbersUpTo : Nat → List Char → List Nat × List Char
  | 0, s => ([], s)
  | k + 1, s =>
    match nextField? s with
    | none => ([], s)
    | some (n, rest) => (n :: (numbersUpTo k rest).1, (numbersUpTo k rest).2)

theorem noDigit_groupChars (gs : List Group) (hrest : NoDigit rest) :
    NoDigit (groupChars gs ++ rest) := by
  cases gs with
  | nil => exact hrest
  | cons g gs =>
    refine noDigit_cons ?_
    simpa using (Bool.and_eq_true_iff.1 g.isDelimiter).1

theorem nextField?_group (g : Group) (hrest : NoDigit rest) :
    nextField? (g.chars ++ rest) = some (g.number.value, rest) := by
  rw [Group.chars, List.cons_append, nextField?, if_pos g.isDelimiter]
  exact g.number.reads hrest

theorem exists_group {n : Nat} (h : nextField? s = some (n, rest)) :
    ∃ g : Group, s = g.chars ++ rest ∧ g.number.value = n := by
  cases s with
  | nil => cases h
  | cons c s =>
    rw [nextField?] at h
    split at h
    next hc =>
      obtain ⟨number, hs, hvalue⟩ := exists_number h
      exact ⟨⟨c, number, hc⟩, congrArg (c :: ·) hs, hvalue⟩
    next => cases h

/-- Groups are taken up to as many as may be there, or up to what is none. -/
theorem numbersUpTo_groupChars {gs : List Group} (hle : gs.length ≤ k) (hrest : NoDigit rest)
    (hend : gs.length = k ∨ nextField? rest = none) :
    numbersUpTo k (groupChars gs ++ rest) = (gs.map fun g ↦ g.number.value, rest) := by
  induction gs generalizing k with
  | nil =>
    cases k with
    | zero => rfl
    | succ k =>
      have hnone : nextField? rest = none := hend.resolve_left nofun
      exact (by rw [numbersUpTo, hnone] : numbersUpTo (k + 1) rest = ([], rest))
  | cons g gs ih =>
    obtain ⟨k, rfl⟩ := Nat.exists_eq_add_of_le' (Nat.le_trans (Nat.le_add_left 1 _) hle)
    have htail := ih (Nat.le_of_succ_le_succ hle) (hend.imp_left Nat.succ.inj)
    have hchars : groupChars (g :: gs) ++ rest = g.chars ++ (groupChars gs ++ rest) :=
      List.append_assoc _ _ _
    rw [hchars, numbersUpTo, nextField?_group g (noDigit_groupChars gs hrest)]
    dsimp only
    rw [htail]
    rfl

theorem exists_groups (k : Nat) (s : List Char) :
    ∃ gs : List Group, gs.length ≤ k ∧ s = groupChars gs ++ (numbersUpTo k s).2 ∧
      (numbersUpTo k s).1 = gs.map fun g ↦ g.number.value := by
  induction k generalizing s with
  | zero => exact ⟨[], Nat.le_refl 0, rfl, rfl⟩
  | succ k ih =>
    rw [numbersUpTo]
    cases hnext : nextField? s with
    | none => exact ⟨[], Nat.zero_le _, rfl, rfl⟩
    | some r =>
      obtain ⟨n, rest⟩ := r
      obtain ⟨g, hg, hvalue⟩ := exists_group hnext
      obtain ⟨gs, hle, hgs, hvalues⟩ := ih rest
      refine ⟨g :: gs, Nat.succ_le_succ hle, ?_, ?_⟩
      · have hchars : groupChars (g :: gs) ++ (numbersUpTo k rest).2 =
            g.chars ++ (groupChars gs ++ (numbersUpTo k rest).2) := List.append_assoc _ _ _
        dsimp only
        rw [hchars, ← hgs]
        exact hg
      · dsimp only
        rw [hvalues, List.map_cons, hvalue]

/-! ## Times -/

theorem timeFields?_eq (s : List Char) :
    timeFields? s = (number? 1 (s.dropWhile isPad)).map fun r ↦
      let ns := (numbersUpTo 3 r.2).1
      ({ hour := r.1, minute := ns.getD 0 0, second := ns.getD 1 0, millisecond := ns.getD 2 0 },
        (numbersUpTo 3 r.2).2) := by
  rw [timeFields?]
  cases number? 1 (s.dropWhile isPad) with
  | none => rfl
  | some r =>
    obtain ⟨hour, s⟩ := r
    simp only [Option.bind_eq_bind, Option.bind_some, Option.map_some, numbersUpTo]
    cases nextField? s with
    | none => rfl
    | some r =>
      obtain ⟨minute, s⟩ := r
      dsimp only
      cases nextField? s with
      | none => rfl
      | some r =>
        obtain ⟨second, s⟩ := r
        dsimp only
        cases nextField? s with
        | none => rfl
        | some r => rfl

theorem timeFields?_dropWhile (s : List Char) :
    timeFields? (s.dropWhile isPad) = timeFields? s := by
  rw [timeFields?, List.dropWhile_idempotent, timeFields?]

namespace TimeText

theorem reads (t : TimeText) (hrest : NoDigit rest) (hend : nextField? rest = none) :
    timeFields? (t.chars ++ rest) = some (t.fields, rest) := by
  rw [timeFields?_eq, chars, List.append_assoc, List.append_assoc,
    dropWhile_isPad_number t.pads_isPad t.hour Nat.zero_lt_one,
    t.hour.reads (noDigit_groupChars t.groups hrest), Option.map_some]
  dsimp only
  rw [numbersUpTo_groupChars t.length_le hrest (.inr hend)]
  rfl

end TimeText

theorem exists_timeText {f : TimeFields} (h : timeFields? s = some (f, rest)) :
    ∃ t : TimeText, s = t.chars ++ rest ∧ t.fields = f := by
  rw [timeFields?_eq, Option.map_eq_some_iff] at h
  obtain ⟨⟨hour, tail⟩, hnumber, hfields⟩ := h
  obtain ⟨n, hs, hvalue⟩ := exists_number hnumber
  obtain ⟨gs, hle, htail, hvalues⟩ := exists_groups 3 tail
  dsimp only at hfields
  rw [hvalues] at hfields
  cases hfields
  refine ⟨⟨s.takeWhile isPad, n, gs, List.all_eq_true.1 List.all_takeWhile, hle⟩, ?_, ?_⟩
  · rw [TimeText.chars, List.append_assoc, List.append_assoc, ← htail, ← hs]
    exact List.takeWhile_append_dropWhile.symm
  · rw [← hvalue]
    rfl

/-! ## Dates -/

/-- What is read behind a year and the numbers that follow it. -/
def behindNumbers (year : Nat) : List Nat → List Char → Option (DateFields × List Char)
  | [], s => some ({ year }, s)
  | [month], s => some ({ year, month }, s)
  | month :: day :: _, s =>
    if allBlank s then some ({ year, month, day }, s)
    else do
      let s ← timeMark? s
      let (time, s) ← timeFields? s
      return ({ year, month, day, time }, s)

theorem dateFields?_eq_behindNumbers (s : List Char) :
    dateFields? s = (number? 4 (s.dropWhile isPad)).bind fun r ↦
      behindNumbers r.1 (numbersUpTo 2 r.2).1 (numbersUpTo 2 r.2).2 := by
  rw [dateFields?]
  cases number? 4 (s.dropWhile isPad) with
  | none => rfl
  | some r =>
    obtain ⟨year, s⟩ := r
    simp only [Option.bind_eq_bind, Option.bind_some, numbersUpTo]
    cases nextField? s with
    | none => rfl
    | some r =>
      obtain ⟨month, s⟩ := r
      dsimp only
      cases nextField? s with
      | none => rfl
      | some r => rfl

theorem timeMark?_cons {c : Char} (h : IsMark c) (s : List Char) :
    timeMark? (c :: s) = some (s.dropWhile isPad) := by
  rw [timeMark?.eq_def]
  split
  next heq =>
    cases heq
    rfl
  next hne heq =>
    cases heq
    rw [if_pos (h.resolve_right hne)]
  next heq => cases heq

theorem exists_mark (h : timeMark? s = some rest) :
    ∃ c tail, IsMark c ∧ s = c :: tail ∧ tail.dropWhile isPad = rest := by
  rw [timeMark?.eq_def] at h
  split at h
  next tail =>
    exact ⟨'T', tail, .inr rfl, rfl, Option.some.inj h⟩
  next c tail _ =>
    split at h
    next hpad => exact ⟨c, tail, .inl hpad, rfl, Option.some.inj h⟩
    next => cases h
  next => cases h

/-! ## Blanks -/

theorem noDigit_of_allBlank (h : allBlank s = true) : NoDigit s := by
  cases s with
  | nil => exact noDigit_nil
  | cons c s =>
    refine noDigit_cons (eq_false_of_ne_true fun hdigit ↦ ?_)
    have hblank := List.all_eq_true.1 h c List.mem_cons_self
    rw [isBlank_of_isDigit hdigit] at hblank
    cases hblank

theorem nextField?_of_allBlank (h : allBlank s = true) : nextField? s = none := by
  cases s with
  | nil => rfl
  | cons c s =>
    have hblank := List.all_eq_true.1 h c List.mem_cons_self
    rw [nextField?, isDelimiter, hblank, Bool.not_true, Bool.and_false]
    rfl

theorem Number.not_allBlank (n : Number least) (hleast : 0 < least) (front rest : List Char) :
    allBlank (front ++ (n.digits ++ rest)) = false := by
  obtain ⟨c, hc⟩ := List.exists_mem_of_length_pos (Nat.lt_of_lt_of_le hleast n.least_le)
  refine List.all_eq_false.2 ⟨c, ?_, ?_⟩
  · exact List.mem_append_right _ (List.mem_append_left _ hc)
  · rw [isBlank_of_isDigit (n.isDigit c hc)]
    exact Bool.false_ne_true

theorem IsMark.isDigit {c : Char} (h : IsMark c) : c.isDigit = false := by
  cases hdigit : c.isDigit with
  | false => rfl
  | true =>
    rcases h with hpad | rfl
    · rw [isPad_of_isDigit hdigit] at hpad
      cases hpad
    · cases hdigit

/-! ## Whole dates -/

namespace DateText

theorem noDigit_timeChars (d : DateText) (hblank : allBlank rest = true) :
    NoDigit (d.timeChars ++ rest) := by
  rw [timeChars]
  cases htime : d.time with
  | none => exact noDigit_of_allBlank hblank
  | some m => exact noDigit_cons (d.time_isMark m htime).isDigit

/-- What stands behind the numbers of a date is read to its end. -/
theorem behindNumbers_reads (d : DateText) (hblank : allBlank rest = true) :
    behindNumbers d.year.value (d.groups.map fun g ↦ g.number.value) (d.timeChars ++ rest) =
      some (d.fields, rest) := by
  obtain ⟨pads, year, groups, time, -, hle, hmark, htwo⟩ := d
  cases time with
  | none =>
    rcases groups with _ | ⟨month, _ | ⟨day, _ | ⟨g, gs⟩⟩⟩
    · rfl
    · rfl
    · exact if_pos hblank
    · exact absurd hle (by simp)
  | some m =>
    obtain ⟨mark, t⟩ := m
    obtain ⟨month, day, rfl⟩ := List.length_eq_two.1 (htwo rfl)
    have hmark : timeMark? (mark :: (t.chars ++ rest)) = some ((t.chars ++ rest).dropWhile isPad) :=
      timeMark?_cons (hmark _ rfl) _
    have htime : timeFields? ((t.chars ++ rest).dropWhile isPad) = some (t.fields, rest) := by
      rw [timeFields?_dropWhile]
      exact t.reads (noDigit_of_allBlank hblank) (nextField?_of_allBlank hblank)
    have hfull : allBlank (mark :: (t.chars ++ rest)) = false := by
      rw [TimeText.chars, List.append_assoc, List.append_assoc]
      exact t.hour.not_allBlank Nat.zero_lt_one (mark :: t.pads) _
    change behindNumbers year.value [month.number.value, day.number.value]
      (mark :: (t.chars ++ rest)) = _
    rw [behindNumbers, hfull, hmark, Option.bind_eq_bind, Option.bind_some, htime]
    rfl

/-- The text of a date is read up to the blanks behind it. -/
theorem reads (d : DateText) (hblank : allBlank rest = true) :
    dateFields? (d.chars ++ rest) = some (d.fields, rest) := by
  have hend : d.groups.length = 2 ∨ nextField? (d.timeChars ++ rest) = none := by
    cases htime : d.time with
    | none =>
      rw [timeChars, htime]
      exact .inr (nextField?_of_allBlank hblank)
    | some m => exact .inl (d.time_length (by rw [htime]; rfl))
  have hdigit := d.noDigit_timeChars hblank
  rw [dateFields?_eq_behindNumbers, chars, List.append_assoc, List.append_assoc, List.append_assoc,
    dropWhile_isPad_number d.pads_isPad d.year (Nat.zero_lt_succ 3),
    d.year.reads (noDigit_groupChars d.groups hdigit), Option.bind_some]
  dsimp only
  rw [numbersUpTo_groupChars d.length_le hdigit hend]
  exact d.behindNumbers_reads hblank

end DateText

/-- Where a date was read its numbers stand in the text, and its time behind them if it has one. -/
theorem exists_dateText {f : DateFields} (h : dateFields? s = some (f, rest)) :
    ∃ d : DateText, s = d.chars ++ rest ∧ d.fields = f := by
  rw [dateFields?_eq_behindNumbers, Option.bind_eq_some_iff] at h
  obtain ⟨⟨n, tail⟩, hnumber, hbehind⟩ := h
  obtain ⟨year, hs, rfl⟩ := exists_number hnumber
  obtain ⟨gs, hle, htail, hvalues⟩ := exists_groups 2 tail
  have hpads : ∀ c ∈ s.takeWhile isPad, isPad c = true := List.all_eq_true.1 List.all_takeWhile
  have htext : s = s.takeWhile isPad ++ year.digits ++ groupChars gs ++ (numbersUpTo 2 tail).2 := by
    rw [List.append_assoc, List.append_assoc, ← htail, ← hs]
    exact List.takeWhile_append_dropWhile.symm
  dsimp only at hbehind
  rw [hvalues] at hbehind
  have hnoTime (hrest : (numbersUpTo 2 tail).2 = rest) :
      s = DateText.chars ⟨s.takeWhile isPad, year, gs, none, hpads, hle, nofun, nofun⟩ ++ rest := by
    rw [DateText.chars, DateText.timeChars, Option.elim_none, List.append_nil, ← hrest]
    exact htext
  rcases gs with _ | ⟨month, _ | ⟨day, _ | ⟨g, gs⟩⟩⟩
  · cases hbehind
    exact ⟨_, hnoTime rfl, rfl⟩
  · cases hbehind
    exact ⟨_, hnoTime rfl, rfl⟩
  · rw [List.map_cons, List.map_cons, behindNumbers] at hbehind
    split at hbehind
    · cases hbehind
      exact ⟨_, hnoTime rfl, rfl⟩
    · rw [Option.bind_eq_bind, Option.bind_eq_some_iff] at hbehind
      obtain ⟨clock, hmark, hclock⟩ := hbehind
      obtain ⟨⟨time, left⟩, htime, hfields⟩ := Option.bind_eq_some_iff.1 hclock
      cases hfields
      obtain ⟨mark, front, hisMark, hbehind, rfl⟩ := exists_mark hmark
      rw [timeFields?_dropWhile] at htime
      obtain ⟨t, rfl, rfl⟩ := exists_timeText htime
      refine ⟨⟨s.takeWhile isPad, year, [month, day], some (mark, t), hpads, hle, ?_, fun _ ↦ rfl⟩,
        ?_, rfl⟩
      · rintro _ ⟨⟩
        exact hisMark
      · rw [hbehind] at htext
        refine htext.trans ?_
        simp only [DateText.chars, DateText.timeChars, Option.elim_some, List.append_assoc,
          List.cons_append]
  · exact absurd hle (by simp)

theorem whole?_eq_some_iff {α : Type} {r : Option (α × List Char)} {a : α} :
    whole? r = some a ↔ ∃ blanks, r = some (a, blanks) ∧ allBlank blanks = true := by
  constructor
  · intro h
    obtain ⟨⟨b, blanks⟩, rfl, hwhole⟩ := Option.bind_eq_some_iff.1 h
    dsimp only at hwhole
    split at hwhole
    next hblank =>
      cases hwhole
      exact ⟨blanks, rfl, hblank⟩
    next => cases hwhole
  · rintro ⟨blanks, rfl, hblank⟩
    exact if_pos hblank

/-- What is accepted as a time. -/
theorem whole?_timeFields?_iff {f : TimeFields} :
    whole? (timeFields? s) = some f ↔ ∃ (t : TimeText) (blanks : List Char),
      s = t.chars ++ blanks ∧ allBlank blanks = true ∧ t.fields = f := by
  rw [whole?_eq_some_iff]
  constructor
  · rintro ⟨blanks, hread, hblank⟩
    obtain ⟨t, hs, hfields⟩ := exists_timeText hread
    exact ⟨t, blanks, hs, hblank, hfields⟩
  · rintro ⟨t, blanks, rfl, hblank, rfl⟩
    exact ⟨blanks, t.reads (noDigit_of_allBlank hblank) (nextField?_of_allBlank hblank), hblank⟩

/-- What is accepted as a date. -/
theorem whole?_dateFields?_iff {f : DateFields} :
    whole? (dateFields? s) = some f ↔ ∃ (d : DateText) (blanks : List Char),
      s = d.chars ++ blanks ∧ allBlank blanks = true ∧ d.fields = f := by
  rw [whole?_eq_some_iff]
  constructor
  · rintro ⟨blanks, hread, hblank⟩
    obtain ⟨d, hs, hfields⟩ := exists_dateText hread
    exact ⟨d, blanks, hs, hblank, hfields⟩
  · rintro ⟨d, blanks, rfl, hblank, rfl⟩
    exact ⟨blanks, d.reads hblank, hblank⟩

section Outcome

variable {α : Type} {o : Option α} {e : Error}

theorem elim_eq_ok_iff {a : α} : o.elim (.error e) .ok = Except.ok a ↔ o = some a := by
  cases o with
  | none =>
    constructor
    · intro h
      cases h
    · intro h
      cases h
  | some b =>
    constructor
    · intro h
      exact congrArg some (Except.ok.inj h)
    · intro h
      exact congrArg Except.ok (Option.some.inj h)

theorem elim_eq_error (h : ∀ a, o.elim (.error e) .ok ≠ Except.ok a) :
    o.elim (.error e) Except.ok = .error e := by
  cases o with
  | none => rfl
  | some a => exact absurd rfl (h a)

end Outcome

theorem time_eq (s : String) :
    time s = (whole? (timeFields? s.toList)).elim (.error (.format .time s)) .ok := by
  rw [time]
  cases whole? (timeFields? s.toList) with
  | none => rfl
  | some f => rfl

theorem dateTime_eq (s : String) :
    dateTime s = (whole? (dateFields? s.toList)).elim (.error (.format .dateTime s)) .ok := by
  rw [dateTime]
  cases whole? (dateFields? s.toList) with
  | none => rfl
  | some f => rfl

/-- A text is accepted as a time, and as a date, if and only if it is the text of a tree with blanks
behind it, and what is given are the numbers of the tree.  Every other text is refused for its form,
and the error holds the text. -/
theorem accepts (s : String) :
    (∀ f, time s = .ok f ↔ ∃ (t : TimeText) (blanks : List Char),
        s.toList = t.chars ++ blanks ∧ allBlank blanks = true ∧ t.fields = f) ∧
      (∀ f, dateTime s = .ok f ↔ ∃ (d : DateText) (blanks : List Char),
        s.toList = d.chars ++ blanks ∧ allBlank blanks = true ∧ d.fields = f) ∧
      ((∀ f, time s ≠ .ok f) → time s = .error (.format .time s)) ∧
      ((∀ f, dateTime s ≠ .ok f) → dateTime s = .error (.format .dateTime s)) := by
  rw [time_eq, dateTime_eq]
  refine ⟨fun f ↦ ?_, fun f ↦ ?_, elim_eq_error, elim_eq_error⟩
  · rw [elim_eq_ok_iff, whole?_timeFields?_iff]
  · rw [elim_eq_ok_iff, whole?_dateFields?_iff]

/-- The letter `T` may be a delimiter and the mark of a time in one text. -/
example : dateTime "2012T12T21T 01.02" = .ok
    { year := 2012, month := 12, day := 21, time := { hour := 1, minute := 2 } } := by
  rfl

end MariaClient.Temporal.Reader
