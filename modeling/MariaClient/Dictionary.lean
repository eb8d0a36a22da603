/-!
# Sorted dictionaries

Values under names, sorted by the name.  A name stands for one value, and giving it another one
replaces the first.
-/

namespace MariaClient

/-- Values under names, sorted by the name. -/
abbrev Dictionary (α : Type) := List (String × α)

namespace Dictionary

variable {α : Type}

/-- Puts a value under a name. -/
def insert (name : String) (a : α) : Dictionary α → Dictionary α
  | [] => [(name, a)]
  | (other, b) :: rest =>
    if name = other then (name, a) :: rest
    else if name < other then (name, a) :: (other, b) :: rest
    else (other, b) :: insert name a rest

/-- The value under a name. -/
def get? (name : String) : Dictionary α → Option α
  | [] => none
  | (other, b) :: rest => if name = other then some b else get? name rest

/-- The dictionary of some pairs.  Of pairs with one name the last one counts. -/
def ofPairs (pairs : List (String × α)) : Dictionary α :=
  pairs.foldl (fun d p ↦ insert p.1 p.2 d) []

@[simp] theorem get?_nil (name : String) : get? name ([] : Dictionary α) = none := rfl

theorem get?_insert_self (name : String) (a : α) (d : Dictionary α) :
    get? name (insert name a d) = some a := by
  induction d with
  | nil => simp [insert, get?]
  | cons p rest ih =>
    obtain ⟨other, b⟩ := p
    unfold insert
    split
    · simp [get?]
    · split
      · simp [get?]
      · simp_all [get?]

theorem get?_insert_of_ne {name other : String} (h : other ≠ name) (a : α) (d : Dictionary α) :
    get? other (insert name a d) = get? other d := by
  induction d with
  | nil => simp [insert, get?, h]
  | cons p rest ih =>
    obtain ⟨third, b⟩ := p
    unfold insert
    split
    · next heq => subst heq; simp [get?, h]
    · split
      · simp [get?, h]
      · simp only [get?, ih]

/-- The last of the pairs with a name counts. -/
theorem get?_ofPairs (name : String) (pairs : List (String × α)) :
    get? name (ofPairs pairs) = (pairs.reverse.find? fun p ↦ p.1 == name).map Prod.snd := by
  unfold ofPairs
  rw [← List.foldr_reverse]
  induction pairs.reverse with
  | nil => rfl
  | cons p rest ih =>
    obtain ⟨other, b⟩ := p
    rw [List.foldr_cons, List.find?_cons]
    by_cases h : other = name
    · subst h
      simp [get?_insert_self]
    · have hb : (other == name) = false := by simpa using h
      rw [get?_insert_of_ne (Ne.symm h), ih, hb]

theorem perm_insert {name : String} {d : Dictionary α} (h : name ∉ d.map Prod.fst) (a : α) :
    (insert name a d).Perm ((name, a) :: d) := by
  induction d with
  | nil => exact .refl _
  | cons p rest ih =>
    obtain ⟨other, b⟩ := p
    rw [List.map_cons, List.mem_cons, not_or] at h
    rw [insert, if_neg h.1]
    split
    · exact .refl _
    · exact ((ih h.2).cons (other, b)).trans (.swap _ _ rest)

theorem perm_foldl_insert {pairs : List (String × α)} {d : Dictionary α}
    (h : ((pairs ++ d).map Prod.fst).Nodup) :
    (pairs.foldl (fun d p ↦ insert p.1 p.2 d) d).Perm (pairs ++ d) := by
  induction pairs generalizing d with
  | nil => exact .refl d
  | cons p pairs ih =>
    have hnew : p.1 ∉ d.map Prod.fst := by
      intro hp
      rw [List.cons_append, List.map_cons, List.nodup_cons, List.map_append, List.mem_append] at h
      exact h.1 (.inr hp)
    have hmoved : (pairs ++ insert p.1 p.2 d).Perm (p :: (pairs ++ d)) :=
      ((perm_insert hnew p.2).append_left pairs).trans List.perm_middle
    exact (ih ((hmoved.map Prod.fst).nodup_iff.2 h)).trans hmoved

/-- Of pairs with distinct names all are there, and nothing else is. -/
theorem perm_ofPairs {pairs : List (String × α)} (h : (pairs.map Prod.fst).Nodup) :
    (ofPairs pairs).Perm pairs := by
  have hall : (ofPairs pairs).Perm (pairs ++ []) :=
    perm_foldl_insert (by rwa [List.append_nil])
  rwa [List.append_nil] at hall

end Dictionary

end MariaClient
