/-!
# Splitting texts

Cutting a text at its first, its last or every occurrence of a character.
-/

namespace MariaClient.Text

/-- The parts of a text before and after the first occurrence of a character. -/
def splitFirst (c : Char) (s : List Char) : Option (List Char × List Char) :=
  match s.dropWhile (· != c) with
  | [] => none
  | _ :: tail => some (s.takeWhile (· != c), tail)

/-- The parts of a text before and after the last occurrence of a character. -/
def splitLast (c : Char) (s : List Char) : Option (List Char × List Char) :=
  (splitFirst c s.reverse).map fun (tail, head) ↦ (head.reverse, tail.reverse)

/-- The parts of a text between all occurrences of a character. -/
def pieces (c : Char) : List Char → List (List Char)
  | [] => [[]]
  | d :: s =>
    if c = d then [] :: pieces c s
    else
      match pieces c s with
      | [] => [[d]]
      | first :: rest => (d :: first) :: rest

/-- What follows a given beginning of a text. -/
def after? : List Char → List Char → Option (List Char)
  | [], s => some s
  | c :: cs, d :: s => if c = d then after? cs s else none
  | _ :: _, [] => none

theorem splitFirst_append {c : Char} {head : List Char} (h : ∀ d ∈ head, d ≠ c)
    (tail : List Char) : splitFirst c (head ++ c :: tail) = some (head, tail) := by
  have hhead : ∀ d ∈ head, (d != c) = true := fun d hd ↦ bne_iff_ne.2 (h d hd)
  have hmark : ¬ (c != c) = true := fun hne ↦ bne_iff_ne.1 hne rfl
  rw [splitFirst, List.dropWhile_append_of_pos hhead, List.takeWhile_append_of_pos hhead,
    List.dropWhile_cons_of_neg (p := (· != c)) hmark,
    List.takeWhile_cons_of_neg (p := (· != c)) hmark, List.append_nil]

theorem splitFirst_of_not_mem {c : Char} {s : List Char} (h : c ∉ s) : splitFirst c s = none := by
  have drop : s.dropWhile (· != c) = [] := by
    induction s with
    | nil => rfl
    | cons d s ih =>
      rw [List.mem_cons, not_or] at h
      rw [List.dropWhile_cons, if_pos (bne_iff_ne.2 (Ne.symm h.1)), ih h.2]
  rw [splitFirst, drop]

theorem splitFirst_append_of_not_mem {c : Char} {head : List Char} (h : c ∉ head)
    (tail : List Char) : splitFirst c (head ++ c :: tail) = some (head, tail) := by
  refine splitFirst_append ?_ tail
  rintro d hd rfl
  exact h hd

theorem splitLast_append {c : Char} {tail : List Char} (h : c ∉ tail) (head : List Char) :
    splitLast c (head ++ c :: tail) = some (head, tail) := by
  have whole : (head ++ c :: tail).reverse = tail.reverse ++ c :: head.reverse := by
    rw [List.reverse_append, List.reverse_cons, List.append_assoc, List.singleton_append]
  rw [splitLast, whole, splitFirst_append_of_not_mem (mt List.mem_reverse.1 h), Option.map_some]
  dsimp only
  rw [List.reverse_reverse, List.reverse_reverse]

theorem splitLast_of_not_mem {c : Char} {s : List Char} (h : c ∉ s) : splitLast c s = none := by
  rw [splitLast, splitFirst_of_not_mem (mt List.mem_reverse.1 h), Option.map_none]

/-- What is cut at a character is the text again once the character is put back. -/
theorem eq_of_splitFirst {c : Char} {s head tail : List Char}
    (h : splitFirst c s = some (head, tail)) : s = head ++ c :: tail := by
  have hwhole : s.takeWhile (· != c) ++ s.dropWhile (· != c) = s := List.takeWhile_append_dropWhile
  have hfirst := List.head?_dropWhile_not (· != c) s
  rw [splitFirst] at h
  split at h
  next => cases h
  next d tail hdrop =>
    cases h
    rw [hdrop] at hwhole hfirst
    have hd : d = c := by simpa using hfirst
    rw [hd] at hwhole
    exact hwhole.symm

theorem pieces_ne_nil (c : Char) (s : List Char) : pieces c s ≠ [] := by
  cases s with
  | nil => simp [pieces]
  | cons d s =>
    unfold pieces
    split
    · simp
    · split <;> simp

/-- A text without the character is one piece. -/
theorem pieces_of_not_mem {c : Char} {s : List Char} (h : c ∉ s) : pieces c s = [s] := by
  induction s with
  | nil => rfl
  | cons d s ih =>
    have hd : c ≠ d := fun e ↦ h (by simp [e])
    have hs : c ∉ s := fun m ↦ h (by simp [m])
    simp [pieces, hd, ih hs]

theorem pieces_append {c : Char} {head : List Char} (h : c ∉ head) (tail : List Char) :
    pieces c (head ++ c :: tail) = head :: pieces c tail := by
  induction head with
  | nil => simp [pieces]
  | cons d head ih =>
    rw [List.mem_cons, not_or] at h
    rw [List.cons_append, pieces, if_neg h.1, ih h.2]

/-- Texts without the character are the pieces of what they are joined to by it. -/
theorem pieces_intercalate {c : Char} {ss : List (List Char)} (hne : ss ≠ [])
    (h : ∀ s ∈ ss, c ∉ s) : pieces c ([c].intercalate ss) = ss := by
  induction ss with
  | nil => exact absurd rfl hne
  | cons s ss ih =>
    have hs := h s List.mem_cons_self
    cases ss with
    | nil => rw [List.intercalate_singleton, pieces_of_not_mem hs]
    | cons t ts =>
      have hrest := ih (List.cons_ne_nil t ts) fun u hu ↦ h u (List.mem_cons_of_mem s hu)
      rw [List.intercalate_cons_cons, List.append_assoc, List.singleton_append, pieces_append hs,
        hrest]

theorem after?_append (cs s : List Char) : after? cs (cs ++ s) = some s := by
  induction cs with
  | nil => rfl
  | cons c cs ih => rw [List.cons_append, after?, if_pos rfl, ih]

end MariaClient.Text
