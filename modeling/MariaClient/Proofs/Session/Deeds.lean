import MariaClient.Proofs.Text.Padded
import MariaClient.Session.Transaction

/-!
# What a transaction sends

From its beginning to its end a transaction sends statements that set save points and end them, and
at last one that ends the transaction itself.  Which of them it may send next is told by its phase:
the number of save points that were asked for, and those that are open.  Every step from one phase
to the next keeps the account of its save points (`TransactionPhase.Run.conserved`), and so what is
sent from the first phase on is well formed (`TransactionPhase.Run.wellFormed`).
-/

namespace MariaClient

/-! ## Deeds -/

/-- What a transaction or one of its save points does by a statement. -/
inductive TransactionDeed
  | save (p : SavePoint)
  | release (p : SavePoint)
  | rollBack (p : SavePoint)
  | finish (commit : Bool)
  deriving DecidableEq, Repr

namespace TransactionDeed

/-- The statement that does it. -/
def request : TransactionDeed → Request
  | save p => .query ("SAVEPOINT " ++ p.name)
  | release p => .query ("RELEASE SAVEPOINT " ++ p.name)
  | rollBack p => .query ("ROLLBACK TO SAVEPOINT " ++ p.name)
  | finish true => .query "COMMIT"
  | finish false => .query "ROLLBACK"

theorem request_finish (commit : Bool) :
    (finish commit).request = .query (Transaction.endSql commit) := by
  cases commit <;> rfl

/-- The save point that is asked for. -/
def asked? : TransactionDeed → Option SavePoint
  | save p => some p
  | _ => none

/-- The save point that is set, if the statement is not refused. -/
def created? : TransactionDeed → Option Error → Option SavePoint
  | save p, none => some p
  | _, _ => none

/-- The save point that is ended. -/
def ended? : TransactionDeed → Option SavePoint
  | release p => some p
  | rollBack p => some p
  | _ => none

end TransactionDeed

/-- Deeds with the errors by which they were answered, the oldest first. -/
abbrev Trace := List (TransactionDeed × Option Error)

namespace Trace

/-- The save points that were asked for. -/
def asked (t : Trace) : List SavePoint :=
  t.filterMap fun (d, _) ↦ d.asked?

/-- The save points that could be set. -/
def created (t : Trace) : List SavePoint :=
  t.filterMap fun (d, failure) ↦ d.created? failure

/-- The save points that were ended. -/
def ended (t : Trace) : List SavePoint :=
  t.filterMap fun (d, _) ↦ d.ended?

/-- The transaction was ended. -/
def Finished (t : Trace) : Prop :=
  ∃ commit failure, (.finish commit, failure) ∈ t

/-- The save points have numbers that increase, so that no name is used twice.  One that could be
set is ended at most once and not before, and exactly once by the end of the transaction.  No other
is ended, and nothing comes after the end of the transaction. -/
structure WellFormed (t : Trace) : Prop where
  numbers : t.asked.Pairwise fun p q ↦ p.number < q.number
  names : (t.asked.map SavePoint.name).Nodup
  ends_once : ∀ before p after, t = before ++ (.save p, none) :: after →
    p ∉ ended before ∧ (ended after).count p ≤ 1 ∧ (t.Finished → (ended after).count p = 1)
  ends_created : ∀ p ∈ t.ended, (.save p, none) ∈ t
  finish_last : ∀ before commit failure after,
    t = before ++ (.finish commit, failure) :: after → after = []

variable {t : Trace} {p : SavePoint}

theorem filterMap_cons_toList {α β : Type} (f : α → Option β) (x : α) (xs : List α) :
    (x :: xs).filterMap f = (f x).toList ++ xs.filterMap f := by
  cases h : f x with
  | none => rw [List.filterMap_cons_none h]; rfl
  | some y => rw [List.filterMap_cons_some h]; rfl

section Cons

variable (d : TransactionDeed) (failure : Option Error)

theorem asked_cons (t : Trace) : asked ((d, failure) :: t) = d.asked?.toList ++ t.asked :=
  filterMap_cons_toList _ _ _

theorem created_cons (t : Trace) :
    created ((d, failure) :: t) = (d.created? failure).toList ++ t.created :=
  filterMap_cons_toList _ _ _

theorem ended_cons (t : Trace) : ended ((d, failure) :: t) = d.ended?.toList ++ t.ended :=
  filterMap_cons_toList _ _ _

end Cons

theorem asked_append (t u : Trace) : asked (t ++ u) = t.asked ++ u.asked :=
  List.filterMap_append

theorem ended_append (t u : Trace) : ended (t ++ u) = t.ended ++ u.ended :=
  List.filterMap_append

theorem mem_created_iff : p ∈ t.created ↔ (.save p, none) ∈ t := by
  constructor
  · intro h
    obtain ⟨⟨d, failure⟩, hmem, hd⟩ := List.mem_filterMap.1 h
    cases d with
    | save q =>
      cases failure with
      | none =>
        cases hd
        exact hmem
      | some e => cases hd
    | _ => cases hd
  · exact fun h ↦ List.mem_filterMap.2 ⟨_, h, rfl⟩

theorem created_sublist (t : Trace) : t.created.Sublist t.asked := by
  induction t with
  | nil => exact .slnil
  | cons x t ih =>
    obtain ⟨d, failure⟩ := x
    rw [created_cons, asked_cons]
    refine List.Sublist.append ?_ ih
    cases d with
    | save p =>
      cases failure with
      | none => exact .refl _
      | some e => exact List.nil_sublist _
    | _ => exact .refl _

end Trace

theorem SavePoint.number_eq_of_name_eq {p q : SavePoint} (h : p.name = q.name) :
    p.number = q.number := by
  have htext : Text.padded 0 p.number = Text.padded 0 q.number :=
    String.ofList_injective ((String.append_right_inj "SP").1 h)
  rw [← Text.value_padded 0 p.number, htext, Text.value_padded]

/-! ## Phases -/

/-- How far a transaction is.  The open save points stand with the newest first. -/
inductive TransactionPhase
  | running (t : Transaction) (points : List SavePoint)
  | closed (t : Transaction)

namespace TransactionPhase

/-- The transaction with the number of save points that were asked for. -/
def transaction : TransactionPhase → Transaction
  | running t _ => t
  | closed t => t

/-- The save points that are open. -/
def points : TransactionPhase → List SavePoint
  | running _ ps => ps
  | closed _ => []

/-- What can be done in a phase, and the phase after it was answered.  A transaction ends after its
save points. -/
inductive Step : TransactionPhase → TransactionDeed → Option Error → TransactionPhase → Prop
  | saved (t : Transaction) (ps : List SavePoint) :
    Step (running t ps) (.save t.counted.lastSavePoint) none
      (running t.counted (t.counted.lastSavePoint :: ps))
  | refused (t : Transaction) (ps : List SavePoint) (e : Error) :
    Step (running t ps) (.save t.counted.lastSavePoint) (some e) (running t.counted ps)
  | released (t : Transaction) (ps : List SavePoint) (p : SavePoint) (qs : List SavePoint)
    (failure : Option Error) :
    Step (running t (ps ++ p :: qs)) (.release p) failure (running t (ps ++ qs))
  | rolledBack (t : Transaction) (ps : List SavePoint) (p : SavePoint) (qs : List SavePoint)
    (failure : Option Error) :
    Step (running t (ps ++ p :: qs)) (.rollBack p) failure (running t (ps ++ qs))
  | finished (t : Transaction) (commit : Bool) (failure : Option Error) :
    Step (running t []) (.finish commit) failure (closed t)

/-- Steps one after the other. -/
inductive Run : TransactionPhase → Trace → TransactionPhase → Prop
  | nil (p : TransactionPhase) : Run p [] p
  | cons {p q r : TransactionPhase} {d : TransactionDeed} {failure : Option Error} {t : Trace}
    (step : Step p d failure q) (run : Run q t r) : Run p ((d, failure) :: t) r

variable {p q r : TransactionPhase} {d : TransactionDeed} {failure : Option Error} {t u : Trace}

theorem Run.append (h : Run p t q) (h' : Run q u r) : Run p (t ++ u) r := by
  induction h with
  | nil => exact h'
  | cons step _ ih => exact .cons step (ih h')

theorem Run.split (h : Run p (t ++ u) r) : ∃ q, Run p t q ∧ Run q u r := by
  induction t generalizing p with
  | nil => exact ⟨p, .nil p, h⟩
  | cons x t ih =>
    cases h with
    | cons step run =>
      obtain ⟨q, hleft, hright⟩ := ih run
      exact ⟨q, .cons step hleft, hright⟩

/-- The open save points may be rolled back, the newest first. -/
theorem Run.rollBacks {t₀ : Transaction} {ps : List SavePoint}
    (h : t.map Prod.fst = ps.map .rollBack) : Run (running t₀ ps) t (running t₀ []) := by
  induction ps generalizing t with
  | nil =>
    rw [List.map_eq_nil_iff.1 h]
    exact .nil _
  | cons p ps ih =>
    obtain ⟨⟨d, failure⟩, u, rfl, rfl, hu⟩ := List.map_eq_cons_iff.1 h
    exact .cons (.rolledBack t₀ [] p ps failure) (ih hu)

/-- Nothing is done any more when the transaction is over. -/
theorem Run.of_closed {t₀ : Transaction} (h : Run (closed t₀) t q) : t = [] ∧ q = closed t₀ := by
  cases h with
  | nil => exact ⟨rfl, rfl⟩
  | cons step _ => cases step

theorem Step.generation_eq (h : Step p d failure q) :
    q.transaction.generation = p.transaction.generation := by
  cases h <;> rfl

theorem Run.generation_eq (h : Run p t q) :
    q.transaction.generation = p.transaction.generation := by
  induction h with
  | nil => rfl
  | cons step _ ih => exact ih.trans step.generation_eq

/-! ## The account of save points -/

theorem Step.conserved (h : Step p d failure q) (x : SavePoint) :
    d.ended?.toList.count x + q.points.count x =
      p.points.count x + (d.created? failure).toList.count x := by
  have htaken (ps : List SavePoint) (y : SavePoint) (qs : List SavePoint) :
      [y].count x + (ps ++ qs).count x = (ps ++ y :: qs).count x := by
    rw [List.perm_middle.count_eq, ← List.count_append]
    rfl
  cases h with
  | saved t ps =>
    change 0 + ([t.counted.lastSavePoint] ++ ps).count x =
      ps.count x + [t.counted.lastSavePoint].count x
    rw [List.count_append]
    omega
  | refused t ps e => exact Nat.zero_add _
  | released t ps y qs => exact htaken ps y qs
  | rolledBack t ps y qs => exact htaken ps y qs
  | finished t commit => rfl

/-- The save points that were ended and those that are open are those that were open and those that
were set. -/
theorem Run.conserved (h : Run p t q) (x : SavePoint) :
    t.ended.count x + q.points.count x = p.points.count x + t.created.count x := by
  induction h with
  | nil => exact Nat.add_comm _ _
  | cons step _ ih =>
    have hstep := step.conserved x
    rw [Trace.ended_cons, Trace.created_cons, List.count_append, List.count_append]
    omega

/-- A save point that is asked for has the next number. -/
theorem Step.asked (h : Step p d failure q) :
    (d.asked? = none ∧ q.transaction = p.transaction) ∨
      d.asked? = some p.transaction.counted.lastSavePoint ∧
        q.transaction = p.transaction.counted := by
  cases h with
  | saved t ps => exact .inr ⟨rfl, rfl⟩
  | refused t ps e => exact .inr ⟨rfl, rfl⟩
  | released t ps p qs => exact .inl ⟨rfl, rfl⟩
  | rolledBack t ps p qs => exact .inl ⟨rfl, rfl⟩
  | finished t commit => exact .inl ⟨rfl, rfl⟩

/-- The numbers of the save points that are asked for increase. -/
theorem Run.asked (h : Run p t q) :
    t.asked.Pairwise (fun x y ↦ x.number < y.number) ∧
      ∀ x ∈ t.asked, p.transaction.savePoints < x.number := by
  induction h with
  | nil => exact ⟨.nil, fun x hx ↦ nomatch hx⟩
  | cons step _ ih =>
    obtain ⟨hpairwise, hlater⟩ := ih
    rw [Trace.asked_cons]
    rcases step.asked with ⟨hnone, hsame⟩ | ⟨hsome, hcounted⟩
    · rw [hnone, ← hsame]
      exact ⟨hpairwise, hlater⟩
    · rw [hcounted] at hlater
      rw [hsome]
      refine ⟨List.pairwise_cons.2 ⟨hlater, hpairwise⟩, ?_⟩
      intro x hx
      rcases List.mem_cons.1 hx with rfl | hx
      · exact Nat.lt_succ_self _
      · exact Nat.lt_of_succ_lt (hlater x hx)

/-! ## What is sent from the first phase on -/

/-- The first phase of a transaction. -/
def begun (generation : Nat) : TransactionPhase :=
  running { generation } []

variable {generation : Nat}

/-- Once the end of the transaction was sent it is over. -/
theorem Run.eq_nil_of_finish {commit : Bool} (h : Run p ((.finish commit, failure) :: t) q) :
    t = [] ∧ q.points = [] := by
  cases h with
  | cons step run =>
    cases step with
    | finished t₀ =>
      obtain ⟨rfl, rfl⟩ := run.of_closed
      exact ⟨rfl, rfl⟩

theorem Run.points_of_finished (h : Run p t q) (hfinished : t.Finished) : q.points = [] := by
  obtain ⟨commit, failure, hmem⟩ := hfinished
  obtain ⟨before, after, rfl⟩ := List.append_of_mem hmem
  obtain ⟨_, -, hrest⟩ := h.split
  exact hrest.eq_nil_of_finish.2

/-- A transaction that is over has sent its end last. -/
theorem Run.exists_finish {t₀ : Transaction} (h : Run p t (closed t₀)) (hp : p ≠ closed t₀) :
    ∃ before commit failure, t = before ++ [(.finish commit, failure)] := by
  generalize hq : closed t₀ = q at h hp
  induction h with
  | nil => exact absurd rfl hp
  | @cons p q r d failure t step run ih =>
    subst hq
    by_cases hclosed : q = closed t₀
    · rw [hclosed] at step run
      obtain ⟨rfl, -⟩ := run.of_closed
      cases step with
      | finished t₀ commit => exact ⟨[], commit, failure, rfl⟩
    · obtain ⟨before, commit, last, rfl⟩ := ih rfl hclosed
      exact ⟨_ :: before, commit, last, rfl⟩

/-- Each save point is set once at most. -/
theorem Run.nodup_asked (h : Run p t q) : t.asked.Nodup :=
  h.asked.1.imp fun hlt heq ↦ Nat.ne_of_lt hlt (congrArg SavePoint.number heq)

/-- What is sent from the first phase on is well formed. -/
theorem Run.wellFormed (h : Run (begun generation) t q) : t.WellFormed where
  numbers := h.asked.1
  names := by
    refine List.pairwise_map.2 (h.asked.1.imp ?_)
    intro x y hlt hname
    exact Nat.ne_of_lt hlt (SavePoint.number_eq_of_name_eq hname)
  ends_once before p after ht := by
    subst ht
    obtain ⟨middle, hbefore, -⟩ := h.split
    have hnodup := h.nodup_asked
    -- nothing of the name was asked for before, and so there was nothing to end
    have hnew : p ∉ Trace.created before := by
      intro hmem
      rw [Trace.asked_append, Trace.asked_cons] at hnodup
      exact (List.nodup_append.1 hnodup).2.2 p ((Trace.created_sublist before).subset hmem) p
        List.mem_cons_self rfl
    have hended : p ∉ Trace.ended before := by
      have hcount := hbefore.conserved p
      rw [List.count_eq_zero_of_not_mem hnew] at hcount
      have hnone : (begun generation).points.count p = 0 := rfl
      exact List.count_eq_zero.1 (by omega)
    have hcreated : (Trace.created (before ++ (.save p, none) :: after)).count p = 1 := by
      have hmem : p ∈ Trace.created (before ++ (.save p, none) :: after) :=
        Trace.mem_created_iff.2 (List.mem_append_right _ List.mem_cons_self)
      exact (hnodup.sublist (Trace.created_sublist _)).count.trans (if_pos hmem)
    have hcount := h.conserved p
    rw [hcreated, Trace.ended_append, List.count_append,
      List.count_eq_zero_of_not_mem hended, Trace.ended_cons] at hcount
    have htotal : 0 + (Trace.ended after).count p + q.points.count p = 0 + 1 := hcount
    refine ⟨hended, by omega, ?_⟩
    intro hfinished
    have hclosed : q.points.count p = 0 := by
      rw [h.points_of_finished hfinished]
      rfl
    omega
  ends_created p hp := by
    have hcount := h.conserved p
    have hpos := List.count_pos_iff.2 hp
    have hnone : (begun generation).points.count p = 0 := rfl
    exact Trace.mem_created_iff.1 (List.count_pos_iff.1 (by omega))
  finish_last before commit failure after ht := by
    rw [ht] at h
    obtain ⟨_, -, hrest⟩ := h.split
    exact hrest.eq_nil_of_finish.1

end TransactionPhase

end MariaClient
