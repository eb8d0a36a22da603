import MariaClient.Decimal
import MariaClient.Proofs.Text.Padded

/-!
# The texts of decimals

A numeral is a sign that may be absent, digits, and a point with more digits that may be absent
too, with one digit at least in all.  `Decimal.parse_accepts` says that these are the texts that are
read, up to blanks at either end, as far as a decimal has room for them: what all digits make, put
to the sign, with as many places as digits stand behind the point.
-/

namespace MariaClient.Decimal

open Text

/-- The sign in front of a number. -/
inductive Sign
  | absent
  | plus
  | minus
  deriving DecidableEq, Repr

def Sign.chars : Sign → List Char
  | absent => []
  | plus => ['+']
  | minus => ['-']

/-- A number as it may be written.  On one side of a point the digits may be missing. -/
structure Numeral where
  sign : Sign
  whole : List Char
  fraction : Option (List Char)
  isDigit_whole : ∀ c ∈ whole, c.isDigit = true
  isDigit_fraction : ∀ c ∈ fraction.getD [], c.isDigit = true
  digits_ne_nil : whole ++ fraction.getD [] ≠ []

namespace Numeral

/-- The number without its sign. -/
def body (n : Numeral) : List Char :=
  n.whole ++ n.fraction.elim [] ('.' :: ·)

def chars (n : Numeral) : List Char :=
  n.sign.chars ++ n.body

/-- The number that all digits make, the point left out. -/
def magnitude (n : Numeral) : Nat :=
  Text.value (n.whole ++ n.fraction.getD [])

/-- The digits behind the point. -/
def places (n : Numeral) : Nat :=
  (n.fraction.getD []).length

def decimal (n : Numeral) : Decimal where
  value := if n.sign = .minus then -n.magnitude else n.magnitude
  precision := n.places

/-! ## Taking a numeral apart -/

theorem splitPoint_body (n : Numeral) : splitPoint n.body = (n.whole, n.fraction.getD []) := by
  have hpoint : ∀ c ∈ n.whole, (c != '.') = true := by
    rintro c hc
    refine bne_iff_ne.2 ?_
    rintro rfl
    exact absurd (n.isDigit_whole '.' hc) (by decide)
  rw [splitPoint, body, List.takeWhile_append_of_pos hpoint, List.dropWhile_append_of_pos hpoint]
  cases n.fraction with
  | none => exact congrArg (·, []) (List.append_nil n.whole)
  | some ds => exact congrArg (·, ds) (List.append_nil n.whole)

/-- A number without its sign begins with a digit or with the point. -/
theorem head_body (n : Numeral) {c : Char} {cs : List Char} (h : n.body = c :: cs) :
    c.isDigit = true ∨ c = '.' := by
  rw [body] at h
  cases hwhole : n.whole with
  | cons d ds =>
    rw [hwhole, List.cons_append] at h
    cases h
    exact .inl (n.isDigit_whole _ (hwhole ▸ List.mem_cons_self))
  | nil =>
    rw [hwhole, List.nil_append] at h
    cases hfraction : n.fraction with
    | none => exact absurd (by rw [hwhole, hfraction]; rfl) n.digits_ne_nil
    | some ds =>
      rw [hfraction] at h
      cases h
      exact .inr rfl

theorem splitSign_chars (n : Numeral) :
    splitSign n.chars = (decide (n.sign = .minus), n.body) := by
  unfold chars
  cases hsign : n.sign with
  | minus => rfl
  | plus => rfl
  | absent =>
    unfold splitSign
    split
    · next heq => exact absurd (n.head_body heq) (by decide)
    · next heq => exact absurd (n.head_body heq) (by decide)
    · rfl

theorem exists_sign (s : List Char) :
    ∃ sign body, s = Sign.chars sign ++ body ∧ splitSign s = (decide (sign = .minus), body) := by
  unfold splitSign
  split
  · exact ⟨.minus, _, rfl, rfl⟩
  · exact ⟨.plus, _, rfl, rfl⟩
  · exact ⟨.absent, _, rfl, rfl⟩

theorem exists_fraction (s : List Char) :
    ∃ whole fraction, s = whole ++ Option.elim fraction [] ('.' :: ·) ∧
      splitPoint s = (whole, fraction.getD []) := by
  have hsplit := (List.takeWhile_append_dropWhile (p := (· != '.')) (l := s)).symm
  have hhead := List.head?_dropWhile_not (· != '.') s
  rw [splitPoint]
  cases hrest : s.dropWhile (· != '.') with
  | nil =>
    rw [hrest] at hsplit
    exact ⟨_, none, hsplit, rfl⟩
  | cons d ds =>
    rw [hrest] at hsplit hhead
    obtain rfl : d = '.' := by simpa using hhead
    exact ⟨_, some ds, hsplit, rfl⟩

end Numeral

/-! ## Reading -/

theorem fits_iff {n : Int} : fits n = true ↔ -2 ^ 63 ≤ n ∧ n < 2 ^ 63 :=
  fitsSigned_iff

/-- What fits leaves room for anything smaller. -/
theorem fits_of_le {m n : Nat} (hle : m ≤ n) (h : fits n = true) : fits m = true := by
  rw [fits_iff] at h ⊢
  omega

section Checked

variable {α : Type} {op : DecimalOp} {n : Int} (f : Int → Except Error α)

theorem checked_bind_of_fits (h : fits n = true) : (checked op n >>= f) = f n := by
  rw [checked, if_pos h]
  rfl

theorem checked_bind_of_not_fits (h : ¬ fits n = true) :
    (checked op n >>= f) = .error (overflow op) := by
  rw [checked, if_neg h]
  rfl

/-- The decimal of a value that has to fit. -/
theorem checked_result (op : DecimalOp) (n : Int) (p : Nat) :
    (do
      let value ← checked op n
      return (⟨value, p⟩ : Decimal)) =
      if fits n then .ok ⟨n, p⟩ else .error (overflow op) := by
  by_cases h : fits n = true
  · rw [checked_bind_of_fits _ h, if_pos h]
    rfl
  · rw [checked_bind_of_not_fits _ h, if_neg h]

/-- The checks of the parts of a number pass if the number fits.  If it does not, one of the checks
fails, and whichever that is, the error is the same. -/
theorem checked_parts (a b p : Nat) :
    (do
      let whole ← checked op a
      let scaled ← checked op (whole * 10 ^ p)
      let fraction ← checked op b
      let n ← checked op (scaled + fraction)
      f n) = checked op ((10 ^ p * a + b : Nat) : Int) >>= f := by
  have hscaled : (a : Int) * 10 ^ p = (10 ^ p * a : Nat) := by
    rw [Nat.mul_comm, Int.natCast_mul, Int.natCast_pow]
    rfl
  have hsum : ((10 ^ p * a : Nat) : Int) + b = (10 ^ p * a + b : Nat) :=
    (Int.natCast_add _ _).symm
  have hmul : a ≤ 10 ^ p * a := Nat.le_mul_of_pos_left a (Nat.pow_pos (by decide))
  by_cases h : fits (10 ^ p * a + b : Nat) = true
  · rw [checked_bind_of_fits _ (fits_of_le (Nat.le_add_right_of_le hmul) h), hscaled,
      checked_bind_of_fits _ (fits_of_le (Nat.le_add_right _ b) h),
      checked_bind_of_fits _ (fits_of_le (Nat.le_add_left b _) h), hsum,
      checked_bind_of_fits _ h]
  · rw [checked_bind_of_not_fits _ h]
    by_cases ha : fits a = true
    · rw [checked_bind_of_fits _ ha, hscaled]
      by_cases hs : fits (10 ^ p * a : Nat) = true
      · rw [checked_bind_of_fits _ hs]
        by_cases hb : fits b = true
        · rw [checked_bind_of_fits _ hb, hsum, checked_bind_of_not_fits _ h]
        · rw [checked_bind_of_not_fits _ hb]
      · rw [checked_bind_of_not_fits _ hs]
    · rw [checked_bind_of_not_fits _ ha]

end Checked

variable {s : String}

theorem parse_eq {negative : Bool} {body whole fraction : List Char}
    (hsign : splitSign (trim s.toList) = (negative, body))
    (hpoint : splitPoint body = (whole, fraction)) :
    parse s =
      if (whole = [] ∧ fraction = []) ∨ !whole.all Char.isDigit ∨ !fraction.all Char.isDigit then
        .error (.format .decimal s)
      else if maxPrecision < fraction.length then .error (.decimal (.fractionDigits s))
      else do
        let n ← checked .parse (Text.value (whole ++ fraction))
        return ⟨if negative then -n else n, fraction.length⟩ := by
  unfold parse
  rw [hsign]
  dsimp only
  rw [hpoint]
  dsimp only
  split
  · rfl
  · split
    · rfl
    · rw [value_append]
      exact checked_parts _ _ _ _

/-- A numeral is read if a decimal has room for its places and for what its digits make. -/
theorem parse_numeral (n : Numeral) (h : trim s.toList = n.chars) :
    parse s =
      if maxPrecision < n.places then .error (.decimal (.fractionDigits s))
      else do
        let magnitude ← checked .parse n.magnitude
        return ⟨if n.sign = .minus then -magnitude else magnitude, n.places⟩ := by
  have hdigits : ¬ ((n.whole = [] ∧ n.fraction.getD [] = []) ∨ !n.whole.all Char.isDigit ∨
      !(n.fraction.getD []).all Char.isDigit) := by
    have hne := n.digits_ne_nil
    rw [Ne, List.append_eq_nil_iff] at hne
    simpa [hne] using ⟨n.isDigit_whole, n.isDigit_fraction⟩
  rw [parse_eq (h ▸ n.splitSign_chars) n.splitPoint_body, if_neg hdigits]
  simp only [decide_eq_true_eq]
  rfl

/-- What is no numeral is refused for its form. -/
theorem parse_of_not_numeral (h : ¬ ∃ n : Numeral, trim s.toList = n.chars) :
    parse s = .error (.format .decimal s) := by
  obtain ⟨sign, body, htext, hsign⟩ := Numeral.exists_sign (trim s.toList)
  obtain ⟨whole, fraction, hbody, hpoint⟩ := Numeral.exists_fraction body
  rw [parse_eq hsign hpoint]
  refine if_pos (Classical.byContradiction fun hdigits ↦ h ?_)
  rw [not_or, not_or, Bool.not_eq_true', Bool.not_eq_true', Bool.not_eq_false, Bool.not_eq_false,
    List.all_eq_true, List.all_eq_true, ← List.append_eq_nil_iff] at hdigits
  obtain ⟨hne, hwhole, hfraction⟩ := hdigits
  refine ⟨⟨sign, whole, fraction, hwhole, hfraction, hne⟩, ?_⟩
  rw [Numeral.chars, Numeral.body, ← hbody]
  exact htext

/-- A text is read if and only if it is a numeral between blanks that a decimal has room for: with
at most 18 places and with digits that make a word of 64 bits before the sign is put to them.  The
decimal is the number that is written.  A numeral without room is refused as a decimal, and whatever
is no numeral is refused for its form. -/
theorem parse_accepts (s : String) :
    (∀ d, parse s = .ok d ↔ ∃ n : Numeral, trim s.toList = n.chars ∧ n.places ≤ 18 ∧
        n.magnitude ≤ 2 ^ 63 - 1 ∧ d = n.decimal) ∧
      (∀ n : Numeral, trim s.toList = n.chars → 18 < n.places ∨ 2 ^ 63 - 1 < n.magnitude →
        ∃ cause, parse s = .error (.decimal cause)) ∧
      ((¬ ∃ n : Numeral, trim s.toList = n.chars) → parse s = .error (.format .decimal s)) := by
  have hfits (n : Numeral) : fits n.magnitude = true ↔ n.magnitude ≤ 2 ^ 63 - 1 := by
    rw [fits_iff]
    omega
  refine ⟨fun d ↦ ⟨fun hok ↦ ?_, ?_⟩, fun n hn hroom ↦ ?_, parse_of_not_numeral⟩
  · by_cases hnumeral : ∃ n : Numeral, trim s.toList = n.chars
    · obtain ⟨n, hn⟩ := hnumeral
      rw [parse_numeral n hn] at hok
      split at hok
      · cases hok
      next hplaces =>
        by_cases hmagnitude : fits n.magnitude = true
        · rw [checked_bind_of_fits _ hmagnitude] at hok
          cases hok
          exact ⟨n, hn, Nat.not_lt.1 hplaces, (hfits n).1 hmagnitude, rfl⟩
        · rw [checked_bind_of_not_fits _ hmagnitude] at hok
          cases hok
    · rw [parse_of_not_numeral hnumeral] at hok
      cases hok
  · rintro ⟨n, hn, hplaces, hmagnitude, rfl⟩
    have hroom : ¬ maxPrecision < n.places := Nat.not_lt.2 hplaces
    rw [parse_numeral n hn, if_neg hroom, checked_bind_of_fits _ ((hfits n).2 hmagnitude)]
    rfl
  · rw [parse_numeral n hn]
    split
    · exact ⟨_, rfl⟩
    next hplaces =>
      have hmagnitude := Nat.not_le.2 (hroom.resolve_left hplaces)
      exact ⟨_, checked_bind_of_not_fits _ (mt (hfits n).1 hmagnitude)⟩

end MariaClient.Decimal
