import MariaClient.Proofs.Client.Sends
import MariaClient.Proofs.Session.Advances
import MariaClient.Proofs.Session.Restoration
import MariaClient.Proofs.Wire.Execution

/-!
# Parameters of statements

A statement keeps its bindings from one execution to the next, and a setter writes into a binding
that may have held a value of any other kind.  Nothing of that is sent: a command says of each
parameter what it would say if the parameter had only ever got the value that the last successful
setter gave it (`Statement.executions_send_last_values`).
-/

namespace MariaClient

open Wire History

/-! ## What a command says of a parameter -/

namespace Binding

/-- A command says the same of two bindings. -/
structure SameOnWire (b b' : Binding) : Prop where
  fieldType : b.fieldType = b'.fieldType
  unsigned : b.unsigned = b'.unsigned
  isNull : b.isNull = b'.isNull
  value : b.isNull = false → encodeValue b = encodeValue b'

/-- A binding that got nothing but a value, if it got one. -/
def ofValue : Option Param → Binding
  | none => {}
  | some p => p.bind {}

variable {b b' : Binding}

theorem SameOnWire.refl (b : Binding) : SameOnWire b b :=
  ⟨rfl, rfl, rfl, fun _ ↦ rfl⟩

theorem SameOnWire.encodeType_eq (h : SameOnWire b b') : encodeType b = encodeType b' := by
  rw [encodeType, encodeType, h.fieldType, h.unsigned]

/-- A value that is missing is not sent. -/
theorem SameOnWire.sent_eq (h : SameOnWire b b') :
    (if !b.isNull then encodeValue b else []) = if !b'.isNull then encodeValue b' else [] := by
  rw [← h.isNull]
  cases hb : b.isNull with
  | true => rfl
  | false => exact h.value hb

theorem map_congr {α : Type} {f : Binding → α} {bs bs' : List Binding}
    (h : List.Forall₂ SameOnWire bs bs') (hf : ∀ {b b'}, SameOnWire b b' → f b = f b') :
    bs.map f = bs'.map f := by
  induction h with
  | nil => rfl
  | cons hb _ ih => rw [List.map_cons, List.map_cons, hf hb, ih]

/-- What a binding held before a value was given to it does not matter. -/
theorem sameOnWire_bind (b b' : Binding) (p : Param) : SameOnWire (p.bind b) (p.bind b') where
  fieldType := by rw [Param.bind_fieldType, Param.bind_fieldType]
  unsigned := by rw [Param.bind_unsigned, Param.bind_unsigned]
  isNull := by rw [Param.bind_isNull, Param.bind_isNull]
  value h := by
    rw [Param.bind_isNull] at h
    have hp : p ≠ .null := beq_eq_false_iff_ne.1 h
    rw [Param.encodeValue_bind b hp, Param.encodeValue_bind b' hp]

end Binding

open Binding

/-- A command says the same if it says the same of each parameter. -/
theorem Wire.executeCommand_congr {bs bs' : List Binding} (h : List.Forall₂ SameOnWire bs bs')
    (id : Nat) : executeCommand id bs = executeCommand id bs' := by
  have hnulls : bs.map (·.isNull) = bs'.map (·.isNull) := map_congr h fun hb ↦ hb.isNull
  have htypes : bs.flatMap encodeType = bs'.flatMap encodeType := by
    rw [List.flatMap_def, List.flatMap_def, map_congr h fun hb ↦ hb.encodeType_eq]
  have hvalues : (bs.filter fun b ↦ !b.isNull).flatMap encodeValue =
      (bs'.filter fun b ↦ !b.isNull).flatMap encodeValue := by
    rw [flatMap_filter, flatMap_filter, List.flatMap_def, List.flatMap_def,
      map_congr h fun hb ↦ hb.sent_eq]
  rw [executeCommand, executeCommand]
  cases h with
  | nil => rfl
  | cons hb hrest =>
    rw [if_neg (List.cons_ne_nil _ _), if_neg (List.cons_ne_nil _ _), hnulls, htypes, hvalues]

/-- Executing a statement sends the command and nothing else. -/
theorem Channel.execute_sends (id : Nat) (params : List Binding) (c : Channel) :
    Sends (ask (.execute id params)) [executeCommand id params] c := by
  have hreplies : Silent (do
      let results ← readReplies fun reply ↦ .ok reply.toStatementResult
      return results.headD (.done {})) :=
    (silent_readReplies _).bind fun _ ↦ silent_pure _
  exact (hreplies.sends _).of_write (d := { c with seq := 0 }) rfl rfl

namespace Statement

variable {σ α : Type} (srv : Server σ) (a : Account)

/-! ## Uses of a statement -/

/-- What a program does with a statement. -/
inductive Use (σ : Type)
  | set (index : Nat) (value : Param)
  | setBlob (index : Nat) (source : Source)
  | execute
  | insert
  | query
  /-- Whatever else happens to the session of the statement. -/
  | meanwhile (f : Link σ → Link σ)

/-- An execution, whose result is left to others. -/
def executing (x : Statement → Attempt (Link σ) α) : Attempt (Statement × Link σ) Unit :=
  fun (s, l) ↦
    let (r, l) := x s l
    (r.map fun _ ↦ (), s, l)

namespace Use

/-- Uses a statement. -/
def perform : Use σ → Attempt (Statement × Link σ) Unit
  | set index value => fun (s, l) ↦
    match s.set index value with
    | .ok s => (.ok (), s, l)
    | .error e => (.error e, s, l)
  | setBlob index source => fun (s, l) ↦
    let (r, s, _) := Statement.setBlob index (s, source)
    (r, s, l)
  | execute => executing (Statement.execute srv a)
  | insert => executing (Statement.insert srv a)
  | query => executing (Statement.query srv a)
  | meanwhile f => fun (s, l) ↦ (.ok (), s, f l)

/-- The use executes the statement. -/
def IsExecution : Use σ → Prop
  | execute | insert | query => True
  | _ => False

/-- How a setter of a statement with so many parameters goes. -/
def setting? (count : Nat) : Use σ → Option (Except Error Unit)
  | set index _ => some (if index < count then .ok () else .error (.outOfRange index count))
  | setBlob index source =>
    some (if index < count then source.readToEnd.1.map fun _ ↦ ()
      else .error (.outOfRange index count))
  | _ => none

/-- The value that a parameter gets from a setter if it succeeds. -/
def value? (index : Nat) : Use σ → Option Param
  | set i value => if i = index then some value else none
  | setBlob i source => if i = index then source.readToEnd.1.toOption.map .blob else none
  | _ => none

/-- Uses a statement again and again, whatever fails.  The result tells how each use went. -/
def performAll : List (Use σ) → Statement × Link σ →
    List (Use σ × Except Error Unit) × (Statement × Link σ)
  | [], t => ([], t)
  | u :: us, t =>
    let (r, t) := u.perform srv a t
    let (done, t) := performAll us t
    ((u, r) :: done, t)

/-- The value that a parameter got from a use. -/
def given (index : Nat) : Use σ × Except Error Unit → Option Param
  | (u, .ok ()) => u.value? index
  | (_, .error _) => none

/-- The value that a parameter got from the last setter that succeeded. -/
def lastGiven (index : Nat) (done : List (Use σ × Except Error Unit)) : Option Param :=
  done.reverse.findSome? (given index)

theorem lastGiven_cons (index : Nat) (x : Use σ × Except Error Unit)
    (done : List (Use σ × Except Error Unit)) :
    lastGiven index (x :: done) = (lastGiven index done).or (given index x) := by
  rw [lastGiven, List.reverse_cons, List.findSome?_append, List.findSome?_singleton]
  rfl

end Use

/-- Bindings of which each got nothing but the last value that was given to its parameter. -/
def lastBindings (count : Nat) (done : List (Use σ × Except Error Unit)) : List Binding :=
  (List.range count).map fun i ↦ ofValue (Use.lastGiven i done)

/-! ## Setters -/

/-- The statement with another value of a parameter. -/
def write (s : Statement) (index : Nat) (p : Param) : Statement :=
  { s with params := s.params.modify index p.bind }

variable {s : Statement} {index : Nat}

theorem set_eq (s : Statement) (index : Nat) (value : Param) :
    s.set index value =
      if index < s.params.length then .ok (s.write index value)
      else .error (.outOfRange index s.params.length) := by
  unfold Statement.set Bindings.modify
  split
  · rfl
  · rfl

theorem write_of_lt (h : index < s.params.length) (p : Param) :
    s.write index p = { s with params := s.params.set index (p.bind s.params[index]) } := by
  have hparams : s.params.modify index p.bind = s.params.set index (p.bind s.params[index]) := by
    rw [List.modify_eq_set_getElem?, List.getElem?_eq_getElem h]
    rfl
  exact congrArg (fun params ↦ { s with params }) hparams

/-- A source is read only if the parameter is there. -/
theorem setBlob_eq (s : Statement) (index : Nat) (source : Source) :
    setBlob index (s, source) =
      if index < s.params.length then
        match source.readToEnd with
        | (.ok data, rest) => (.ok (), s.write index (.blob data), rest)
        | (.error e, rest) => (.error e, s, rest)
      else (.error (.outOfRange index s.params.length), s, source) := by
  dsimp only [setBlob, Bindings.get]
  by_cases h : index < s.params.length
  · rw [if_pos h, List.getElem?_eq_getElem h]
    rcases source.readToEnd with ⟨e | data, rest⟩
    · rfl
    · dsimp only
      rw [write_of_lt h]
  · rw [if_neg h, List.getElem?_eq_none (Nat.le_of_not_lt h)]

variable {srv a} {l : Link σ}

theorem perform_set (value : Param) :
    (Use.set index value).perform srv a (s, l) =
      if index < s.params.length then (.ok (), s.write index value, l)
      else (.error (.outOfRange index s.params.length), s, l) := by
  have hperform : (Use.set index value).perform srv a (s, l) =
      match s.set index value with
      | .ok s => (.ok (), s, l)
      | .error e => (.error e, s, l) := rfl
  rw [hperform, set_eq]
  by_cases h : index < s.params.length
  · rw [if_pos h, if_pos h]
  · rw [if_neg h, if_neg h]

theorem perform_setBlob (source : Source) :
    (Use.setBlob index source).perform srv a (s, l) =
      if index < s.params.length then
        match source.readToEnd.1 with
        | .ok data => (.ok (), s.write index (.blob data), l)
        | .error e => (.error e, s, l)
      else (.error (.outOfRange index s.params.length), s, l) := by
  have hperform : (Use.setBlob index source).perform srv a (s, l) =
      ((setBlob index (s, source)).1, (setBlob index (s, source)).2.1, l) := rfl
  rw [hperform, setBlob_eq]
  split
  · rcases source.readToEnd with ⟨e | data, rest⟩
    · rfl
    · rfl
  · rfl

/-! ## What is kept of a statement -/

/-- What is kept of a statement in use: the server knows it as before, and a command says of each
parameter what it would say if the parameter had only got its value here. -/
structure Holds (s : Statement) (values : Nat → Option Param) (s' : Statement) : Prop where
  id : s'.id = s.id
  generation : s'.generation = s.generation
  length : s'.params.length = s.params.length
  params : ∀ i (b : Binding), s'.params[i]? = some b → b.SameOnWire (.ofValue (values i))

namespace Holds

variable {s' : Statement} {values : Nat → Option Param}

theorem write (h : Holds s values s') (index : Nat) (p : Param) :
    Holds s (fun i ↦ (if index = i then some p else none).or (values i)) (s'.write index p) where
  id := h.id
  generation := h.generation
  length := (List.length_modify _ _ _).trans h.length
  params i b hb := by
    change (s'.params.modify index p.bind)[i]? = some b at hb
    rw [List.getElem?_modify] at hb
    obtain ⟨old, hold, rfl⟩ := Option.map_eq_some_iff.1 hb
    by_cases hi : index = i
    · rw [if_pos hi, if_pos hi]
      exact sameOnWire_bind old {} p
    · rw [if_neg hi, if_neg hi]
      exact h.params i old hold

/-- A use that gives no parameter a value. -/
theorem same (h : Holds s values s') {u : Use σ} (hu : ∀ i, u.value? i = none)
    (r : Except Error Unit) : Holds s (fun i ↦ (Use.given i (u, r)).or (values i)) s' := by
  have hgiven : (fun i ↦ (Use.given i (u, r)).or (values i)) = values := by
    funext i
    rcases r with e | ⟨⟩
    · rfl
    · rw [Use.given, hu]
      rfl
  rwa [hgiven]

variable (srv a)

/-- A setter that succeeds gives its parameter a value.  Nothing else changes a statement. -/
theorem perform (h : Holds s values s') (u : Use σ) (l : Link σ) :
    Holds s (fun i ↦ (Use.given i (u, (u.perform srv a (s', l)).1)).or (values i))
      (u.perform srv a (s', l)).2.1 := by
  cases u with
  | set index value =>
    rw [perform_set]
    split
    · exact h.write index value
    · exact h
  | setBlob index source =>
    rw [perform_setBlob]
    split
    · rcases hread : source.readToEnd.1 with e | data
      · exact h
      · have hgiven (i : Nat) : Use.given i (Use.setBlob (σ := σ) index source, .ok ()) =
            if index = i then some (.blob data) else none := by
          rw [Use.given, Use.value?, hread]
          rfl
        simp only [hgiven]
        exact h.write index (.blob data)
    · exact h
  | execute => exact h.same (fun _ ↦ rfl) _
  | insert => exact h.same (fun _ ↦ rfl) _
  | query => exact h.same (fun _ ↦ rfl) _
  | meanwhile f => exact h.same (fun _ ↦ rfl) _

theorem performAll (h : Holds s values s') (uses : List (Use σ)) (l : Link σ) :
    Holds s
      (fun i ↦ (Use.lastGiven i (Use.performAll srv a uses (s', l)).1).or (values i))
      (Use.performAll srv a uses (s', l)).2.1 := by
  induction uses generalizing s' l values with
  | nil => exact h
  | cons u uses ih =>
    have hstep := h.perform srv a u l
    rcases hu : u.perform srv a (s', l) with ⟨r, s'', l'⟩
    rw [hu] at hstep
    have hrest := ih hstep l'
    have hdone : Use.performAll srv a (u :: uses) (s', l) =
        ((u, r) :: (Use.performAll srv a uses (s'', l')).1,
          (Use.performAll srv a uses (s'', l')).2) := by
      rw [Use.performAll, hu]
    rw [hdone]
    simp only [Use.lastGiven_cons, Option.or_assoc]
    exact hrest

theorem forall₂ (h : Holds s values s') :
    List.Forall₂ SameOnWire s'.params
      ((List.range s.params.length).map fun i ↦ ofValue (values i)) := by
  refine List.forall₂_iff_get.2 ⟨?_, fun i hi _ ↦ ?_⟩
  · rw [h.length, List.length_map, List.length_range]
  · have hsame := h.params i _ (List.getElem?_eq_getElem hi)
    simpa using hsame

end Holds

section Server

variable {s' : Statement} {l' : Link (σ × History)}

/-- A parameter that was given nothing is missing. -/
theorem prepare_holds {sql : String} {l : Link (σ × History)}
    (h : prepare (recorded srv) a sql l = (.ok s, l')) : Holds s (fun _ ↦ none) s where
  id := rfl
  generation := rfl
  length := rfl
  params i b hb := by
    obtain ⟨before, hrun⟩ := Connection.run_ok srv a h
    obtain ⟨p, after, hask, hpure⟩ := Attempt.of_bind_ok hrun
    cases hpure
    obtain ⟨-, rfl⟩ := List.mem_replicate.1 (List.mem_of_getElem? hb)
    exact .refl _

/-- An execution leaves the statement alone and sends its parameters, unless the client of the
statement is lost. -/
theorem perform_execution {u : Use (σ × History)} (hu : u.IsExecution)
    (l : Link (σ × History)) :
    (u.perform (recorded srv) a (s, l)).2.1 = s ∧
      ∃ failure, (u.perform (recorded srv) a (s, l)).2.2.server.2.exchanges =
        (if Connection.alive s.generation l then [(.execute s.id s.params, failure)] else []) ++
          l.server.2.exchanges := by
  have hstate : (u.perform (recorded srv) a (s, l)).2 = (s, (s.run (recorded srv) a l).2) := by
    cases u with
    | execute => exact congrArg (Prod.mk s) (execute_state (recorded srv) a s l)
    | insert => exact congrArg (Prod.mk s) (insert_state (recorded srv) a s l)
    | query => exact congrArg (Prod.mk s) (query_state (recorded srv) a s l)
    | _ => cases hu
  have hposes : Poses (.execute s.id s.params)
      (do return some (← (recorded srv).ask (.execute s.id s.params))) :=
    (Poses.ask srv _).map some
  obtain ⟨r, -, hsent⟩ := Link.exchanges_runIn srv a (g := s.generation) (some none) hposes l
  rw [hstate]
  exact ⟨rfl, failure? r, hsent⟩

/-- A setter says whether its parameter is there and whether its source could be read.  If it
fails it leaves everything alone. -/
theorem perform_setting {u : Use σ} {r : Except Error Unit}
    (hu : u.setting? s.params.length = some r) :
    ∃ s', u.perform srv a (s, l) = (r, s', l) ∧ (r ≠ .ok () → s' = s) := by
  cases u with
  | set index value =>
    cases hu
    rw [perform_set]
    split
    · exact ⟨_, rfl, fun h ↦ absurd rfl h⟩
    · exact ⟨s, rfl, fun _ ↦ rfl⟩
  | setBlob index source =>
    cases hu
    rw [perform_setBlob]
    split
    · rcases source.readToEnd.1 with e | data
      · exact ⟨s, rfl, fun _ ↦ rfl⟩
      · exact ⟨_, rfl, fun h ↦ absurd rfl h⟩
    · exact ⟨s, rfl, fun _ ↦ rfl⟩
  | _ => cases hu

variable (srv a)

/-- However a prepared statement was used, whatever its parameters held in between and whatever
failed: if it is executed next it sends the command that it would send if each parameter had only
got the value that the last setter which succeeded gave to it, and changes none of them; a setter
fails only if its parameter is not there or its source cannot be read, and then it changes
nothing. -/
theorem executions_send_last_values {sql : String} {before l : Link (σ × History)}
    {uses : List (Use (σ × History))} {done : List (Use (σ × History) × Except Error Unit)}
    (hprepare : prepare (recorded srv) a sql before = (.ok s, l))
    (huses : Use.performAll (recorded srv) a uses (s, l) = (done, s', l')) :
    (List.Forall₂ SameOnWire s'.params (lastBindings s.params.length done) ∧
      ∀ c, Channel.Sends (Channel.ask (.execute s'.id s'.params))
        [executeCommand s.id (lastBindings s.params.length done)] c) ∧
    (∀ u : Use (σ × History), u.IsExecution →
      (u.perform (recorded srv) a (s', l')).2.1 = s' ∧
        ∃ failure, (u.perform (recorded srv) a (s', l')).2.2.server.2.exchanges =
          (if Connection.alive s.generation l' then [(.execute s'.id s'.params, failure)]
            else []) ++ l'.server.2.exchanges) ∧
    ∀ (u : Use (σ × History)) (r : Except Error Unit), u.setting? s.params.length = some r →
      ∃ s'', u.perform (recorded srv) a (s', l') = (r, s'', l') ∧ (r ≠ .ok () → s'' = s') := by
  have hholds := (prepare_holds hprepare).performAll (recorded srv) a uses l
  rw [huses] at hholds
  simp only [Option.or_none] at hholds
  have hsame : List.Forall₂ SameOnWire s'.params (lastBindings s.params.length done) :=
    hholds.forall₂
  refine ⟨⟨hsame, fun c ↦ ?_⟩, fun u hu ↦ ?_, fun u r hu ↦ ?_⟩
  · rw [← hholds.id, ← Wire.executeCommand_congr hsame]
    exact Channel.execute_sends s'.id s'.params c
  · rw [← hholds.generation]
    exact perform_execution hu l'
  · rw [← hholds.length] at hu
    exact perform_setting hu

/-- The first parameter gets a number, a time and bytes, the second a text and no value; then the
source of its next value breaks off, and a third parameter is not there. -/
theorem executions_send_last_values_brokenSource :
    let link : Link (Script × History) := ⟨.start {}, {}, []⟩
    let prepared := prepare (recorded Script.server) {} "SELECT ?,?" link
    let s : Statement := ⟨1, "SELECT ?,?", Bindings.fresh 2, [], 1⟩
    let uses : List (Use (Script × History)) :=
      [.set 0 (.signed .w64 (-1)), .set 0 (.time ⟨1, 2, 3, 4⟩), .execute, .set 1 (.text "x"),
        .setBlob 0 [.bytes [7], .interrupted, .bytes [8, 9]], .set 1 .null, .insert,
        .setBlob 1 [.bytes [5], .failed .endOfStream], .set 2 (.boolean true)]
    let used := Use.performAll (recorded Script.server) {} uses (s, prepared.2)
    prepared = (.ok s, prepared.2) ∧
      lastBindings 2 used.1 = [(Param.blob [7, 8, 9]).bind {}, Param.null.bind {}] ∧
      ∀ c, Channel.Sends (Channel.ask (.execute used.2.1.id used.2.1.params))
        [[0x17, 1, 0, 0, 0, 0, 1, 0, 0, 0, 2, 1, 0xfc, 0, 6, 0, 3, 7, 8, 9]] c := by
  intro link prepared s uses used
  have hok : prepared.1.toOption = some s := by decide +kernel +zetaReduce
  have hprepared : prepared = (.ok s, prepared.2) := by
    rcases h : prepared with ⟨e | s', l⟩
    · rw [h] at hok
      cases hok
    · rw [h] at hok
      cases hok
      rfl
  have hlast : lastBindings 2 used.1 = [(Param.blob [7, 8, 9]).bind {}, Param.null.bind {}] := by
    decide +kernel +zetaReduce
  have hused : Use.performAll (recorded Script.server) {} uses (s, prepared.2) =
      (used.1, used.2.1, used.2.2) := rfl
  clear_value used
  obtain ⟨⟨-, hsends⟩, -⟩ := executions_send_last_values Script.server {} hprepared hused
  have hcount : s.params.length = 2 := List.length_replicate
  have hcommand : executeCommand s.id [(Param.blob [7, 8, 9]).bind {}, Param.null.bind {}] =
      [0x17, 1, 0, 0, 0, 0, 1, 0, 0, 0, 2, 1, 0xfc, 0, 6, 0, 3, 7, 8, 9] := by
    decide +kernel +zetaReduce
  rw [hcount, hlast, hcommand] at hsends
  exact ⟨hprepared, hlast, hsends⟩

end Server

end Statement

end MariaClient
