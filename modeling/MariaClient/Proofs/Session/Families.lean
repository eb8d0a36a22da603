import Mathlib.Data.List.Nodup
import MariaClient.Proofs.Session.Homes

/-!
# Families

A transaction and its save points are a family, which is known by the number of the transaction.
The numbers under which things are alive are never given twice, so that a turn that is not about a
family leaves it as it is (`Workspace.Alters.family_eq`).
-/

namespace MariaClient

open Workspace

variable {σ α : Type} (srv : Server σ) (a : Account)

/-! ## Numbers -/

namespace Entity

/-- What is alive of a family. -/
def family (k : Nat) (es : List (Nat × Entity)) : List (Nat × Entity) :=
  es.filter fun (n, e) ↦ e.root n == k

/-- Everything alive has a number of its own below the next one, and so has its root.  The root of
a save point is a transaction. -/
structure Numbered (es : List (Nat × Entity)) (next : Nat) : Prop where
  lt : ∀ n e, (n, e) ∈ es → n < next ∧ e.root n < next
  nodup : (es.map Prod.fst).Nodup
  owned : ∀ n owner p, (n, .savePoint owner p) ∈ es → ∃ t, (owner, .transaction t) ∈ es

variable {es : List (Nat × Entity)} {next k n : Nat} {e e' : Entity}

theorem mem_family : (n, e) ∈ family k es ↔ (n, e) ∈ es ∧ e.root n = k := by
  rw [family, List.mem_filter, beq_iff_eq]

theorem family_cons (h : e.root n = k) : family k ((n, e) :: es) = (n, e) :: family k es :=
  List.filter_cons_of_pos (beq_iff_eq.2 h)

theorem family_filter (p : Nat × Entity → Bool) :
    family k (es.filter p) = (family k es).filter p := by
  rw [family, family, List.filter_filter, List.filter_filter]
  exact List.filter_congr fun _ _ ↦ Bool.and_comm _ _

/-- What is kept of everything keeps a family if it keeps each of its members. -/
theorem family_filter_eq {p : Nat × Entity → Bool} (h : ∀ x ∈ family k es, p x = true) :
    family k (es.filter p) = family k es := by
  rw [family_filter, List.filter_eq_self]
  exact h

/-- Something of another family may take the place of something of another family. -/
theorem family_replace (hnew : e.root n ≠ k) (hold : ∀ old, (n, old) ∈ es → old.root n ≠ k) :
    family k (es.map fun (m, old) ↦ (m, if m = n then e else old)) = family k es := by
  induction es with
  | nil => rfl
  | cons x es ih =>
    obtain ⟨m, old⟩ := x
    have hrest := ih fun old hmem ↦ hold old (List.mem_cons_of_mem _ hmem)
    unfold family at hrest ⊢
    rw [List.map_cons, List.filter_cons, List.filter_cons, hrest]
    by_cases hm : m = n
    · subst hm
      have hother := hold old List.mem_cons_self
      simp [hnew, hother]
    · simp [hm]

namespace Numbered

theorem eq_of_mem (h : Numbered es next) (he : (n, e) ∈ es) (he' : (n, e') ∈ es) : e = e' :=
  congrArg Prod.snd (List.inj_on_of_nodup_map h.nodup he he' rfl)

theorem lookup_eq_some_iff (h : Numbered es next) : es.lookup n = some e ↔ (n, e) ∈ es := by
  refine ⟨mem_of_lookup, fun hmem ↦ ?_⟩
  cases hfound : es.lookup n with
  | some found => rw [h.eq_of_mem hmem (mem_of_lookup hfound)]
  | none =>
    have hother := List.lookup_eq_none_iff.1 hfound (n, e) hmem
    exact absurd rfl (bne_iff_ne.1 hother)

/-- Something may be forgotten, but a transaction not before its save points. -/
theorem filter (h : Numbered es next) (p : Nat × Entity → Bool)
    (hp : ∀ n owner q t, p (n, .savePoint owner q) = true → (n, .savePoint owner q) ∈ es →
      (owner, .transaction t) ∈ es → p (owner, .transaction t) = true) :
    Numbered (es.filter p) next where
  lt n e hmem := h.lt n e (List.mem_filter.1 hmem).1
  nodup := h.nodup.sublist (List.filter_sublist.map Prod.fst)
  owned n owner q hmem := by
    obtain ⟨hq, hkept⟩ := List.mem_filter.1 hmem
    obtain ⟨t, ht⟩ := h.owned n owner q hq
    exact ⟨t, List.mem_filter.2 ⟨ht, hp n owner q t hkept hq ht⟩⟩

/-- Something may be added under the next number. -/
theorem add (h : Numbered es next) (hroot : e.root next ≤ next)
    (howned : ∀ owner p, e = .savePoint owner p → ∃ t, (owner, .transaction t) ∈ es) :
    Numbered ((next, e) :: es) (next + 1) where
  lt n e' hmem := by
    rcases List.mem_cons.1 hmem with heq | hmem
    · obtain ⟨rfl, rfl⟩ := Prod.mk.inj heq
      exact ⟨Nat.lt_succ_self _, Nat.lt_succ_of_le hroot⟩
    · obtain ⟨hn, hr⟩ := h.lt n e' hmem
      exact ⟨Nat.lt_succ_of_lt hn, Nat.lt_succ_of_lt hr⟩
  nodup := by
    refine List.nodup_cons.2 ⟨?_, h.nodup⟩
    intro hmem
    obtain ⟨⟨n, e'⟩, hfound, hn⟩ := List.mem_map.1 hmem
    exact absurd hn (Nat.ne_of_lt (h.lt n e' hfound).1)
  owned n owner p hmem := by
    rcases List.mem_cons.1 hmem with heq | hmem
    · obtain ⟨t, ht⟩ := howned owner p (Prod.mk.inj heq).2.symm
      exact ⟨t, List.mem_cons_of_mem _ ht⟩
    · obtain ⟨t, ht⟩ := h.owned n owner p hmem
      exact ⟨t, List.mem_cons_of_mem _ ht⟩

/-- Something may be exchanged that is no save point, a transaction only for a transaction. -/
theorem replace (h : Numbered es next) (hroot : e.root n < next)
    (hsave : ∀ owner p, e ≠ .savePoint owner p)
    (hkind : ∀ t, (n, .transaction t) ∈ es → ∃ t', e = .transaction t') :
    Numbered (es.map fun (m, old) ↦ (m, if m = n then e else old)) next where
  lt m e' hmem := by
    obtain ⟨⟨m, old⟩, hold, heq⟩ := List.mem_map.1 hmem
    obtain ⟨rfl, rfl⟩ := Prod.mk.inj heq
    obtain ⟨hm, hr⟩ := h.lt m old hold
    refine ⟨hm, ?_⟩
    split
    · next heq => exact heq ▸ hroot
    · next => exact hr
  nodup := by
    rw [List.map_map]
    exact h.nodup
  owned m owner p hmem := by
    obtain ⟨⟨m, old⟩, hold, heq⟩ := List.mem_map.1 hmem
    obtain ⟨rfl, hp⟩ := Prod.mk.inj heq
    split at hp
    · next => exact absurd hp (hsave owner p)
    · next =>
      subst hp
      obtain ⟨t, ht⟩ := h.owned m owner p hold
      by_cases howner : owner = n
      · obtain ⟨t', rfl⟩ := hkind t (howner ▸ ht)
        exact ⟨t', List.mem_map.2 ⟨(owner, .transaction t), ht, by simp [howner]⟩⟩
      · exact ⟨t, List.mem_map.2 ⟨(owner, .transaction t), ht, by simp [howner]⟩⟩

end Numbered

end Entity

/-! ## Members of a family -/

namespace Entity

/-- Save points of a transaction under their numbers. -/
def savePoints (k : Nat) (qs : List (Nat × SavePoint)) : List (Nat × Entity) :=
  qs.map fun (n, p) ↦ (n, .savePoint k p)

/-- A transaction and its save points. -/
def members (k : Nat) (t : Transaction) (qs : List (Nat × SavePoint)) : List (Nat × Entity) :=
  savePoints k qs ++ [(k, .transaction t)]

variable {es : List (Nat × Entity)} {next k n : Nat} {e : Entity} {t : Transaction}
  {p : SavePoint} {qs xs ys : List (Nat × SavePoint)}

theorem members_append : members k t (xs ++ qs) = savePoints k xs ++ members k t qs := by
  simp [members, savePoints]

/-- A member of a family is the transaction or one of its save points. -/
theorem of_mem_members (h : (n, e) ∈ members k t qs) :
    (n = k ∧ e = .transaction t) ∨
      ∃ xs p ys, qs = xs ++ (n, p) :: ys ∧ e = .savePoint k p := by
  rcases List.mem_append.1 h with hsave | htransaction
  · obtain ⟨⟨m, p⟩, hmem, heq⟩ := List.mem_map.1 hsave
    obtain ⟨rfl, rfl⟩ := Prod.mk.inj heq
    obtain ⟨xs, ys, rfl⟩ := List.append_of_mem hmem
    exact .inr ⟨xs, p, ys, rfl, rfl⟩
  · obtain ⟨rfl, rfl⟩ := Prod.mk.inj (List.mem_singleton.1 htransaction)
    exact .inl ⟨rfl, rfl⟩

theorem eq_or_ownedBy_of_root (h : e.root n = k) : n = k ∨ ownedBy k e = true := by
  cases e with
  | savePoint owner p => exact .inr (beq_iff_eq.2 h)
  | statement s => exact .inl h
  | transaction t => exact .inl h

/-- Nothing is left of a family without its transaction and its save points. -/
theorem family_eq_nil (h : ∀ n e, (n, e) ∈ es → n ≠ k ∧ ownedBy k e = false) :
    family k es = [] := by
  refine List.filter_eq_nil_iff.2 ?_
  rintro ⟨n, e⟩ hmem hroot
  obtain ⟨hn, howned⟩ := h n e hmem
  rcases eq_or_ownedBy_of_root (beq_iff_eq.1 hroot) with heq | hown
  · exact hn heq
  · exact Bool.false_ne_true (howned.symm.trans hown)

/-- Whatever keeps all roots commutes with taking a family. -/
theorem family_map {f : Nat × Entity → Nat × Entity}
    (hf : ∀ x ∈ es, (f x).2.root (f x).1 = x.2.root x.1) :
    family k (es.map f) = (family k es).map f := by
  unfold family
  rw [List.filter_map]
  congr 1
  refine List.filter_congr fun x hx ↦ ?_
  exact congrArg (· == k) (hf x hx)

section Nodup

variable {A B : List (Nat × Entity)} (h : ((A ++ (n, e) :: B).map Prod.fst).Nodup)
include h

theorem ne_of_nodup {x : Nat × Entity} (hx : x ∈ A ++ B) : x.1 ≠ n := by
  rw [List.map_append, List.map_cons, List.nodup_middle, List.nodup_cons, ← List.map_append] at h
  rintro rfl
  exact h.1 (List.mem_map.2 ⟨x, hx, rfl⟩)

theorem filter_ne_of_nodup :
    (A ++ (n, e) :: B).filter (fun (m, _) ↦ m != n) = A ++ B := by
  have hkept : (A ++ B).filter (fun (m, _) ↦ m != n) = A ++ B :=
    List.filter_eq_self.2 fun x hx ↦ bne_iff_ne.2 (ne_of_nodup h hx)
  rw [List.filter_append, List.filter_cons_of_neg (by simp), ← List.filter_append, hkept]

theorem filter_eq_of_nodup :
    (A ++ (n, e) :: B).filter (fun (m, _) ↦ m == n) = [(n, e)] := by
  have hA : A.filter (fun (m, _) ↦ m == n) = [] :=
    List.filter_eq_nil_iff.2 fun x hx heq ↦
      ne_of_nodup h (List.mem_append_left B hx) (beq_iff_eq.1 heq)
  have hB : B.filter (fun (m, _) ↦ m == n) = [] :=
    List.filter_eq_nil_iff.2 fun x hx heq ↦
      ne_of_nodup h (List.mem_append_right A hx) (beq_iff_eq.1 heq)
  rw [List.filter_append, List.filter_cons_of_pos (by simp), hA, hB]
  rfl

end Nodup

section Members

variable (hes : family k es = members k t qs)
include hes

theorem transaction_mem : (k, .transaction t) ∈ es := by
  have hmem : (k, .transaction t) ∈ family k es := by
    rw [hes]
    exact List.mem_append_right _ List.mem_cons_self
  exact (mem_family.1 hmem).1

theorem savePoint_mem (hp : (n, p) ∈ qs) : (n, .savePoint k p) ∈ es := by
  have hmem : (n, .savePoint k p) ∈ family k es := by
    rw [hes]
    exact List.mem_append_left _ (List.mem_map.2 ⟨_, hp, rfl⟩)
  exact (mem_family.1 hmem).1

theorem filter_ownedBy :
    es.filter (fun (_, e) ↦ ownedBy k e) = savePoints k qs := by
  have howned : es.filter (fun (_, e) ↦ ownedBy k e) =
      (family k es).filter (fun (_, e) ↦ ownedBy k e) := by
    unfold family
    rw [List.filter_filter]
    refine List.filter_congr ?_
    rintro ⟨n, e⟩ -
    cases e with
    | savePoint owner p => exact (Bool.and_self _).symm
    | statement s => rfl
    | transaction t => rfl
  rw [howned, hes, members, List.filter_append, List.filter_cons_of_neg Bool.false_ne_true,
    List.filter_nil, List.append_nil, List.filter_eq_self]
  rintro _ hx
  obtain ⟨⟨n, p⟩, -, rfl⟩ := List.mem_map.1 hx
  exact beq_self_eq_true k

end Members

namespace Numbered

section Transaction

variable (h : Numbered es next) (hes : family k es = members k t qs)
include h hes

/-- Dropping a transaction drops its family. -/
theorem filter_family :
    es.filter (fun (n, e) ↦ n == k || ownedBy k e) = members k t qs := by
  rw [← hes]
  refine List.filter_congr ?_
  rintro ⟨n, e⟩ hmem
  cases e with
  | savePoint owner p =>
    have hn : n ≠ k := by
      rintro rfl
      cases h.eq_of_mem hmem (transaction_mem hes)
    simp [hn, root, ownedBy]
  | statement s => simp [root, ownedBy]
  | transaction t => simp [root, ownedBy]

theorem family_counted :
    family k (es.map fun (m, old) ↦ (m, if m = k then .transaction t.counted else old)) =
      members k t.counted qs := by
  have hroot : ∀ x ∈ es, Entity.root x.1 (if x.1 = k then .transaction t.counted else x.2) =
      x.2.root x.1 := by
    rintro ⟨n, e⟩ hmem
    by_cases hn : n = k
    · subst hn
      rw [if_pos rfl, h.eq_of_mem hmem (transaction_mem hes)]
      rfl
    · rw [if_neg hn]
  rw [family_map hroot, hes, members, members, savePoints, List.map_append, List.map_map]
  congr 1
  · refine List.map_congr_left ?_
    rintro ⟨n, p⟩ hp
    have hn : n ≠ k := by
      rintro rfl
      cases h.eq_of_mem (savePoint_mem hes hp) (transaction_mem hes)
    simp [hn]
  · simp

end Transaction

section SavePoint

variable (h : Numbered es next) (hes : family k es = members k t (xs ++ (n, p) :: ys))
include h hes

theorem family_forget :
    family k (es.filter fun (m, _) ↦ m != n) = members k t (xs ++ ys) := by
  have hnodup : ((family k es).map Prod.fst).Nodup :=
    h.nodup.sublist (List.filter_sublist.map Prod.fst)
  have hsplit : members k t (xs ++ (n, p) :: ys) =
      savePoints k xs ++ (n, .savePoint k p) :: members k t ys :=
    members_append
  rw [hes, hsplit] at hnodup
  rw [family_filter, hes, hsplit, filter_ne_of_nodup hnodup, ← members_append]

/-- Nothing is of a save point. -/
theorem not_ownedBy_savePoint : ∀ x ∈ es, ownedBy n x.2 = false := by
  rintro ⟨m, e⟩ hmem
  cases e with
  | savePoint owner q =>
    refine beq_false_of_ne ?_
    rintro rfl
    obtain ⟨t', ht'⟩ := h.owned m owner q hmem
    cases h.eq_of_mem ht' (savePoint_mem hes (List.mem_append_right xs List.mem_cons_self))
  | statement s => rfl
  | transaction t => rfl

/-- Dropping a save point drops nothing else. -/
theorem filter_savePoint :
    es.filter (fun (m, e) ↦ m == n || ownedBy n e) = [(n, .savePoint k p)] := by
  have hnodup : (es.map Prod.fst).Nodup := h.nodup
  have hnumber : es.filter (fun (m, e) ↦ m == n || ownedBy n e) =
      es.filter fun (m, _) ↦ m == n := by
    refine List.filter_congr fun x hx ↦ ?_
    dsimp only
    rw [h.not_ownedBy_savePoint hes x hx, Bool.or_false]
  have hmem := savePoint_mem hes (List.mem_append_right xs List.mem_cons_self)
  obtain ⟨A, B, hAB⟩ := List.append_of_mem hmem
  rw [hnumber, hAB]
  exact filter_eq_of_nodup (hAB ▸ hnodup)

end SavePoint

end Numbered

end Entity

open Entity

/-! ## Turns -/

/-- The turn is about a member of a family. -/
def Turn.concerns (k : Nat) (w : Workspace σ) (turn : Turn) : Bool :=
  turn.target?.any fun n ↦ (w.find? n).any fun e ↦ e.root n == k

namespace Workspace

variable {w : Workspace σ} {n k : Nat}

theorem find?_of_mem {e : Entity} (hw : Numbered w.entities w.next) (h : (n, e) ∈ w.entities) :
    w.find? n = some e :=
  hw.lookup_eq_some_iff.2 h

theorem transaction?_of_mem {t : Transaction} (hw : Numbered w.entities w.next)
    (h : (n, .transaction t) ∈ w.entities) : w.transaction? n = some t := by
  rw [transaction?, find?_of_mem hw h]

theorem savePoint?_of_mem {owner : Nat} {p : SavePoint} (hw : Numbered w.entities w.next)
    (h : (n, .savePoint owner p) ∈ w.entities) : w.savePoint? n = some p := by
  rw [savePoint?, find?_of_mem hw h]

section Apply

/-- Giving the outcome of a step on the session another form leaves what the step leaves. -/
theorem onLink_return {x : Attempt (Link σ) α} {f : α → Outcome} (w : Workspace σ) :
    (onLink (do return f (← x)) w).2 = { w with link := (x w.link).2 } :=
  congrArg (fun l ↦ { w with link := l }) (View.bind_pure_state x f w.link)

theorem withStatement_of_none {x : Statement → Attempt (Link σ) Outcome}
    (h : w.statement? n = none) : (withStatement n x w).2 = w := by
  unfold withStatement
  rw [h]

theorem finish_of_none (h : w.transaction? n = none) (commit : Bool) :
    (finish srv a n commit w).2 = w := by
  unfold finish
  rw [h]

theorem createSavePoint_of_none (h : w.transaction? n = none) :
    (createSavePoint srv a n w).2 = w := by
  unfold createSavePoint
  rw [h]

theorem releaseSavePoint_of_none (h : w.savePoint? n = none) :
    (releaseSavePoint srv a n w).2 = w := by
  unfold releaseSavePoint
  rw [h]

variable {t : Transaction} {p : SavePoint}

theorem finish_of_transaction (h : w.transaction? n = some t) (commit : Bool) :
    (finish srv a n commit w).2 =
      { w with
        link := (t.finish srv a commit ((w.entities.filter fun (_, e) ↦ ownedBy n e).foldl
          (fun l (_, e) ↦ cleanUp srv e l) w.link)).2
        entities := (w.entities.filter fun (_, e) ↦ !ownedBy n e).filter
          fun (m, _) ↦ m != n } := by
  unfold finish
  rw [h]
  exact onLink_return _

theorem createSavePoint_of_ok {l : Link σ} (h : w.transaction? n = some t)
    (hcreate : t.counted.lastSavePoint.create srv a w.link = (.ok (), l)) :
    (createSavePoint srv a n w).2 =
      { link := l
        entities := (w.next, .savePoint n t.counted.lastSavePoint) ::
          (w.replace n (.transaction t.counted)).entities
        next := w.next + 1 } := by
  unfold createSavePoint
  rw [h]
  exact congrArg Prod.snd (Attempt.bind_apply_ok
    (onLink_apply (w := w.replace n (.transaction t.counted)) hcreate))

theorem createSavePoint_of_error {l : Link σ} {e : Error} (h : w.transaction? n = some t)
    (hcreate : t.counted.lastSavePoint.create srv a w.link = (.error e, l)) :
    (createSavePoint srv a n w).2 = { w.replace n (.transaction t.counted) with link := l } := by
  unfold createSavePoint
  rw [h]
  exact congrArg Prod.snd (Attempt.bind_apply_error
    (onLink_apply (w := w.replace n (.transaction t.counted)) hcreate))

theorem releaseSavePoint_of_savePoint (h : w.savePoint? n = some p) :
    (releaseSavePoint srv a n w).2 =
      { w.forget n with link := (p.release srv a w.link).2 } := by
  unfold releaseSavePoint
  rw [h]
  exact onLink_return _

end Apply

/-! ## What a turn does to what is alive -/

/-- What is alive after a turn, and the next number. -/
inductive Alters (w : Workspace σ) : Turn → List (Nat × Entity) → Nat → Prop
  | same (turn : Turn) : Alters w turn w.entities w.next
  | made (turn : Turn) (e : Entity) (hroot : ∀ n, e.root n = n) :
    Alters w turn ((w.next, e) :: w.entities) (w.next + 1)
  | exchanged (turn : Turn) {n : Nat} {s : Statement} (s' : Statement)
    (h : (n, .statement s) ∈ w.entities) :
    Alters w turn (w.replace n (.statement s')).entities w.next
  | finished {n : Nat} {t : Transaction} (commit : Bool) (h : (n, .transaction t) ∈ w.entities) :
    Alters w (.perform (.finish n commit))
      ((w.entities.filter fun (_, e) ↦ !ownedBy n e).filter fun (m, _) ↦ m != n) w.next
  | refused {n : Nat} {t : Transaction} (h : (n, .transaction t) ∈ w.entities) :
    Alters w (.perform (.createSavePoint n)) (w.replace n (.transaction t.counted)).entities w.next
  | saved {n : Nat} {t : Transaction} (h : (n, .transaction t) ∈ w.entities) :
    Alters w (.perform (.createSavePoint n))
      ((w.next, .savePoint n t.counted.lastSavePoint) ::
        (w.replace n (.transaction t.counted)).entities) (w.next + 1)
  | released {n owner : Nat} {p : SavePoint} (h : (n, .savePoint owner p) ∈ w.entities) :
    Alters w (.perform (.releaseSavePoint n)) (w.forget n).entities w.next
  | dropped (n : Nat) :
    Alters w (.perform (.drop n)) (w.entities.filter fun (m, e) ↦ !(m == n || ownedBy n e)) w.next

section Turns

variable {turn : Turn}

theorem alters_made {x : Attempt (Link σ) α} {f : α → Entity} (hroot : ∀ v n, (f v).root n = n) :
    Alters w turn ((do add (f (← onLink x)) : Attempt (Workspace σ) Outcome) w).2.entities
      ((do add (f (← onLink x)) : Attempt (Workspace σ) Outcome) w).2.next := by
  rcases hr : x w.link with ⟨e | v, l⟩
  · rw [Attempt.bind_apply_error (onLink_apply hr)]
    exact .same turn
  · rw [Attempt.bind_apply_ok (onLink_apply hr)]
    exact .made turn (f v) (hroot v)

theorem alters_setParam (index : Nat) (value : Param) :
    Alters w turn (setParam n index value w).2.entities (setParam n index value w).2.next := by
  unfold setParam
  split
  · next s hs =>
    split
    · next s' _ => exact .exchanged turn s' (mem_of_statement? hs)
    · next => exact .same turn
  · next => exact .same turn

theorem alters_withStatement (x : Statement → Attempt (Link σ) Outcome) :
    Alters w turn (withStatement n x w).2.entities (withStatement n x w).2.next := by
  unfold withStatement
  split
  · next => exact .same turn
  · next => exact .same turn

theorem alters_finish (commit : Bool) :
    Alters w (.perform (.finish n commit)) (finish srv a n commit w).2.entities
      (finish srv a n commit w).2.next := by
  cases h : w.transaction? n with
  | none =>
    rw [finish_of_none srv a h]
    exact .same _
  | some t =>
    rw [finish_of_transaction srv a h]
    exact .finished commit (mem_of_transaction? h)

theorem alters_createSavePoint :
    Alters w (.perform (.createSavePoint n)) (createSavePoint srv a n w).2.entities
      (createSavePoint srv a n w).2.next := by
  cases h : w.transaction? n with
  | none =>
    rw [createSavePoint_of_none srv a h]
    exact .same _
  | some t =>
    rcases hr : t.counted.lastSavePoint.create srv a w.link with ⟨e | _, l⟩
    · rw [createSavePoint_of_error srv a h hr]
      exact .refused (mem_of_transaction? h)
    · rw [createSavePoint_of_ok srv a h hr]
      exact .saved (mem_of_transaction? h)

theorem alters_releaseSavePoint :
    Alters w (.perform (.releaseSavePoint n)) (releaseSavePoint srv a n w).2.entities
      (releaseSavePoint srv a n w).2.next := by
  cases h : w.savePoint? n with
  | none =>
    rw [releaseSavePoint_of_none srv a h]
    exact .same _
  | some p =>
    obtain ⟨owner, hmem⟩ := mem_of_savePoint? h
    rw [releaseSavePoint_of_savePoint srv a h]
    exact .released hmem

theorem alters_take (turn : Turn) (w : Workspace σ) :
    Alters w turn (turn.take srv a w).2.entities (turn.take srv a w).2.next := by
  cases turn with
  | selectSchema schema => exact .same _
  | recordSchema schema => exact .same _
  | sendAutoCommit on => exact .same _
  | recordAutoCommit on => exact .same _
  | perform op =>
    cases op with
    | connect => exact .same _
    | disconnect => exact .same _
    | ping => exact .same _
    | setSchema schema => exact .same _
    | setAutoCommit on => exact .same _
    | execute sql => exact .same _
    | insert sql => exact .same _
    | query sql => exact .same _
    | prepare sql => exact alters_made fun _ _ ↦ rfl
    | setParam number index value => exact alters_setParam index value
    | executeStatement number => exact alters_withStatement _
    | insertStatement number => exact alters_withStatement _
    | queryStatement number => exact alters_withStatement _
    | start isolation snapshot => exact alters_made fun _ _ ↦ rfl
    | finish number commit => exact alters_finish srv a commit
    | createSavePoint number => exact alters_createSavePoint srv a
    | releaseSavePoint number => exact alters_releaseSavePoint srv a
    | drop number => exact .dropped number

variable {es : List (Nat × Entity)} {next : Nat}

/-- What is new gets a number that nothing else has. -/
theorem Alters.numbered (h : Alters w turn es next) (hw : Numbered w.entities w.next) :
    Numbered es next ∧ w.next ≤ next := by
  have hcounted {n : Nat} {t : Transaction} (hmem : (n, .transaction t) ∈ w.entities) :
      Numbered (w.replace n (.transaction t.counted)).entities w.next :=
    hw.replace (e := .transaction t.counted) (hw.lt _ _ hmem).1 nofun fun _ _ ↦ ⟨_, rfl⟩
  cases h with
  | same => exact ⟨hw, Nat.le_refl _⟩
  | made _ e hroot =>
    refine ⟨hw.add (Nat.le_of_eq (hroot _)) ?_, Nat.le_succ _⟩
    rintro owner p rfl
    exact absurd (hroot (owner + 1)) (Nat.ne_of_lt (Nat.lt_succ_self owner))
  | @exchanged _ n s s' hmem =>
    refine ⟨hw.replace (e := .statement s') (hw.lt _ _ hmem).1 nofun ?_, Nat.le_refl _⟩
    intro t ht
    cases hw.eq_of_mem hmem ht
  | @finished n t commit hmem =>
    refine ⟨(hw.filter _ fun _ _ _ _ _ _ _ ↦ rfl).filter _ ?_, Nat.le_refl _⟩
    intro m owner p t' _ hp _
    -- a save point that is kept is of another transaction
    have hother : (!(owner == n)) = true := (List.mem_filter.1 hp).2
    exact hother
  | @refused n t hmem => exact ⟨hcounted hmem, Nat.le_refl _⟩
  | @saved n t hmem =>
    refine ⟨(hcounted hmem).add (Nat.le_of_lt (hw.lt _ _ hmem).1) ?_, Nat.le_succ _⟩
    rintro owner p ⟨⟩
    exact ⟨t.counted, List.mem_map.2 ⟨(n, .transaction t), hmem, by simp⟩⟩
  | @released n owner p hmem =>
    refine ⟨hw.filter _ ?_, Nat.le_refl _⟩
    intro m owner' q t _ _ ht
    refine bne_iff_ne.2 ?_
    rintro rfl
    cases hw.eq_of_mem hmem ht
  | dropped n =>
    refine ⟨hw.filter _ ?_, Nat.le_refl _⟩
    intro m owner q t hkept _ _
    have hother : (!(m == n || owner == n)) = true := hkept
    rw [Bool.not_or, Bool.and_eq_true] at hother
    change (!(owner == n || false)) = true
    rw [Bool.or_false]
    exact hother.2

theorem not_ownedBy_of_root {m : Nat} {e : Entity} (h : e.root m ≠ n) : ownedBy n e = false := by
  cases e with
  | savePoint owner p => exact beq_false_of_ne h
  | statement s => rfl
  | transaction t => rfl

/-- What a turn is about is of another family, if the turn is not about the family. -/
theorem root_ne_of_concerns {e : Entity} (hw : Numbered w.entities w.next)
    (hconcerns : turn.concerns k w = false) (htarget : turn.target? = some n)
    (hmem : (n, e) ∈ w.entities) : e.root n ≠ k := by
  have hfind := find?_of_mem hw hmem
  rw [Turn.concerns, htarget, Option.any_some, hfind, Option.any_some] at hconcerns
  exact beq_eq_false_iff_ne.1 hconcerns

/-- A turn that is about no member of a family leaves the family as it is. -/
theorem Alters.family_eq (h : Alters w turn es next) (hw : Numbered w.entities w.next)
    (hk : k < w.next) (hfamily : Entity.family k w.entities = [] ∨
      ∃ t, (k, .transaction t) ∈ w.entities) (hconcerns : turn.concerns k w = false) :
    Entity.family k es = Entity.family k w.entities := by
  have hroot {n : Nat} {e : Entity} := @root_ne_of_concerns σ w n k turn e hw hconcerns
  have hreplace {n : Nat} {old new : Entity} (hmem : (n, old) ∈ w.entities)
      (hold : old.root n ≠ k) (hnew : new.root n ≠ k) :
      Entity.family k (w.replace n new).entities = Entity.family k w.entities :=
    family_replace hnew fun e he ↦ hw.eq_of_mem hmem he ▸ hold
  cases h with
  | same => rfl
  | made _ e hmade =>
    refine List.filter_cons_of_neg fun heq ↦ ?_
    exact Nat.ne_of_gt hk ((hmade _).symm.trans (beq_iff_eq.1 heq))
  | @exchanged _ n s s' hmem =>
    have hn : n ≠ k := by
      rintro rfl
      rcases hfamily with hnone | ⟨t, ht⟩
      · exact List.ne_nil_of_mem (mem_family.2 ⟨hmem, rfl⟩) hnone
      · cases hw.eq_of_mem hmem ht
    exact hreplace hmem hn hn
  | @finished n t commit hmem =>
    have hn : n ≠ k := hroot rfl hmem
    refine (family_filter_eq ?_).trans (family_filter_eq ?_)
    · rintro ⟨m, e⟩ hx
      obtain ⟨he, rfl⟩ := mem_family.1 hx
      refine bne_iff_ne.2 ?_
      rintro rfl
      exact hroot rfl (List.mem_filter.1 he).1 rfl
    · rintro ⟨m, e⟩ hx
      obtain ⟨-, rfl⟩ := mem_family.1 hx
      exact congrArg (!·) (not_ownedBy_of_root hn.symm)
  | @refused n t hmem =>
    have hn : n ≠ k := hroot rfl hmem
    exact hreplace hmem hn hn
  | @saved n t hmem =>
    have hn : n ≠ k := hroot rfl hmem
    refine (List.filter_cons_of_neg ?_).trans (hreplace hmem hn hn)
    exact fun heq ↦ hn (beq_iff_eq.1 heq)
  | @released n owner p hmem =>
    refine family_filter_eq ?_
    rintro ⟨m, e⟩ hx
    obtain ⟨he, rfl⟩ := mem_family.1 hx
    refine bne_iff_ne.2 ?_
    rintro rfl
    exact hroot rfl he rfl
  | dropped n =>
    refine family_filter_eq ?_
    rintro ⟨m, e⟩ hx
    obtain ⟨he, rfl⟩ := mem_family.1 hx
    have hm : m ≠ n := by
      rintro rfl
      exact hroot rfl he rfl
    -- a save point is only dropped with its transaction, which the turn is not about
    have hn : e.root m ≠ n := by
      rintro rfl
      rcases hfamily with hnone | ⟨t, ht⟩
      · exact List.ne_nil_of_mem hx hnone
      · exact hroot rfl ht rfl
    dsimp only
    rw [beq_false_of_ne hm, not_ownedBy_of_root hn]
    rfl

end Turns

end Workspace

end MariaClient
