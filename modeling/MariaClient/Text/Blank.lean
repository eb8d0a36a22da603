/-!
# Blank characters

Which characters count as white space, and what is left of a text once the blanks at its ends
are gone.  The set is the Unicode property `White_Space`.
-/

namespace MariaClient.Text

/-- A character of the Unicode property `White_Space`. -/
def isBlank (c : Char) : Bool :=
  let n := c.toNat
  (0x09 ≤ n && n ≤ 0x0D) || n == 0x20 || n == 0x85 || n == 0xA0 || n == 0x1680
    || (0x2000 ≤ n && n ≤ 0x200A) || n == 0x2028 || n == 0x2029 || n == 0x202F
    || n == 0x205F || n == 0x3000

/-- Every blank that core knows is blank here. -/
theorem isBlank_of_isWhitespace {c : Char} (h : c.isWhitespace = true) : isBlank c = true := by
  simp only [Char.isWhitespace, Bool.or_eq_true, decide_eq_true_eq] at h
  rcases h with ((rfl | rfl) | rfl) | rfl <;> decide

/-- No digit is blank. -/
theorem isBlank_of_isDigit {c : Char} (h : c.isDigit = true) : isBlank c = false := by
  rw [Char.isDigit, Bool.and_eq_true, decide_eq_true_eq, decide_eq_true_eq] at h
  have hlow : 48 ≤ c.toNat := UInt32.le_iff_toNat_le.1 h.1
  have hhigh : c.toNat ≤ 57 := UInt32.le_iff_toNat_le.1 h.2
  simp [isBlank]
  omega

/-- The text without the blanks in front of it. -/
def trimStart (s : List Char) : List Char :=
  s.dropWhile isBlank

/-- The text without the blanks at its end. -/
def trimEnd (s : List Char) : List Char :=
  (s.reverse.dropWhile isBlank).reverse

/-- The text without the blanks at either end. -/
def trim (s : List Char) : List Char :=
  trimEnd (trimStart s)

/-- A text that holds nothing but blanks. -/
def allBlank (s : List Char) : Bool :=
  s.all isBlank

@[simp] theorem trim_nil : trim [] = [] := rfl

end MariaClient.Text
