import MariaClient.Client.Exchange
import MariaClient.Proofs.Client.Receives
import MariaClient.Proofs.Wire.ServerPacket

/-!
# Responses

The grammar of what a server may send in answer to each command, and what the answer means.  A
statement is answered by results, each of them counters or a header and rows, and all but the last
of them flagged; a failure may end the response in place of a result or in place of a row.

Every command takes exactly its own response and gives what the response means, so that the next
command finds the stream where its own response begins (`ask_takes_response`).
-/

namespace MariaClient

open Wire

/-! ## The grammar of responses -/

/-- How a kind of rows travels.  A row is never taken for a failure or for the end of the rows. -/
structure RowFormat (ρ : Type) where
  packet : ρ → Bytes
  Fits : Nat → ρ → Prop
  isRow {columns : Nat} {row : ρ} : 0 < columns → Fits columns row → IsRow (packet row)

/-- Rows of a query: a text or nothing for each column. -/
def textRows : RowFormat (List (Option Bytes)) where
  packet := textRowPacket
  Fits columns cells := cells.length = columns ∧ ∀ bs, some bs ∈ cells → bs.length < 2 ^ 64
  isRow hpos h := isRow_textRowPacket (List.ne_nil_of_length_pos (h.1 ▸ hpos))

/-- Rows of a prepared statement, which begin with a byte of zero. -/
def binaryRows : RowFormat Bytes where
  packet row := row
  Fits _ row := isOk row = true
  isRow _ h := by
    simp only [isOk, beq_iff_eq] at h
    simp [IsRow, isErr, isEof, h]

/-- Definitions of columns.  Unless there are none, a packet ends them. -/
def definitionPackets (definitions : List Definition) (ending : ListEnd) : List Bytes :=
  if definitions = [] then [] else definitions.map (·.packet) ++ [ending.packet]

/-- The columns of a result. -/
structure Header where
  definitions : List Definition
  ending : ListEnd := {}
  deriving DecidableEq, Repr

namespace Header

/-- The columns as the client keeps them. -/
def columns (h : Header) : List Column :=
  h.definitions.map (·.column)

/-- The number of columns and their definitions. -/
def packets (h : Header) : List Bytes :=
  lenEncInt h.definitions.length :: definitionPackets h.definitions h.ending

/-- There is a column, and everything fits its field. -/
structure Fits (h : Header) : Prop where
  pos : 0 < h.definitions.length
  count : h.definitions.length < 2 ^ 64
  definitions : ∀ d ∈ h.definitions, d.Fits

end Header

/-- One result of a statement. -/
inductive Result (ρ : Type)
  | done (d : Done) (message : Bytes)
  | rows (header : Header) (rows : List ρ) (ending : ListEnd)
  deriving DecidableEq, Repr

namespace Result

variable {ρ : Type} (format : RowFormat ρ)

/-- The packets of a result. -/
def packets : Result ρ → List Bytes
  | done d message => [d.packet message]
  | rows header rs ending => header.packets ++ (rs.map format.packet ++ [ending.packet])

/-- Everything in a result fits its field. -/
def Fits : Result ρ → Prop
  | done d _ => d.Fits
  | rows header rs ending =>
    header.Fits ∧ (∀ row ∈ rs, format.Fits header.definitions.length row) ∧ ending.Fits

/-- The reply that a result is. -/
def reply : Result ρ → Reply
  | done d _ => .done d
  | rows header rs ending => .rows header.columns (rs.map format.packet) ending.status

/-- The result is flagged to be followed by another one. -/
def flagged : Result ρ → Bool
  | done d _ => hasFlag d.statusFlags moreResultsFlag
  | rows _ _ ending => hasFlag ending.status moreResultsFlag

theorem moreResults_reply (r : Result ρ) : (r.reply format).moreResults = r.flagged := by
  cases r <;> rfl

/-- What a query gives for a result: all cells of all rows. -/
def toQueryResult : Result (List (Option Bytes)) → QueryResult
  | done d _ => .done d
  | rows header rs _ => .rows header.columns rs

/-- What a prepared statement gives for a result: the packets of the rows as they are. -/
def toStatementResult : Result Bytes → StatementResult
  | done d _ => .done d
  | rows header rs _ => .rows header.columns rs

end Result

/-- The response to a statement: results, or a failure in place of one or in place of a row. -/
inductive Response (ρ : Type)
  | last (r : Result ρ)
  | more (r : Result ρ) (rest : Response ρ)
  | refused (failure : Bytes)
  | broken (header : Header) (rows : List ρ) (failure : Bytes)
  deriving DecidableEq, Repr

namespace Response

variable {ρ α : Type} (format : RowFormat ρ)

/-- The packets of a response. -/
def packets : Response ρ → List Bytes
  | last r => r.packets format
  | more r rest => r.packets format ++ rest.packets
  | refused failure => [failure]
  | broken header rows failure => header.packets ++ (rows.map format.packet ++ [failure])

/-- All results but the last are flagged, failures are marked as such, and everything fits its
field. -/
def Fits : Response ρ → Prop
  | last r => r.Fits format ∧ r.flagged = false
  | more r rest => r.Fits format ∧ r.flagged = true ∧ rest.Fits
  | refused failure => isErr failure = true
  | broken header rows failure =>
    header.Fits ∧ (∀ row ∈ rows, format.Fits header.definitions.length row) ∧ isErr failure = true

/-- The results, or the error of a response that ends with a failure. -/
def results : Response ρ → Except Error (List (Result ρ))
  | last r => .ok [r]
  | more r rest => rest.results.map (r :: ·)
  | refused failure => .error (errorOf failure)
  | broken _ _ failure => .error (errorOf failure)

/-- The first result, or the error of a response that ends with a failure. -/
def first : Response ρ → Except Error (Result ρ)
  | more r rest => rest.results.map fun _ ↦ r
  | last r => .ok r
  | refused failure => .error (errorOf failure)
  | broken _ _ failure => .error (errorOf failure)

end Response

/-- The packets that may answer a request, and what they mean. -/
inductive Answers : (r : Request) → List Bytes → Except Error r.Answer → Prop
  | query (sql : String) {s : Response (List (Option Bytes))} (h : s.Fits textRows) :
      Answers (.query sql) (s.packets textRows) (s.results.map (·.map Result.toQueryResult))
  | execute (id : Nat) (params : List Binding) {s : Response Bytes} (h : s.Fits binaryRows) :
      Answers (.execute id params) (s.packets binaryRows) (s.first.map Result.toStatementResult)
  | prepared (sql : String) {p : PrepareOk} {params columns : List Definition}
      (afterParams afterColumns : ListEnd) (h : p.Fits) (hparams : params.length = p.params)
      (hcolumns : columns.length = p.columns) (hfits : ∀ d ∈ params ++ columns, d.Fits) :
      Answers (.prepare sql)
        (p.packet ::
          (definitionPackets params afterParams ++ definitionPackets columns afterColumns))
        (.ok { id := p.statementId, params := p.params, columns := columns.map (·.column) })
  | unprepared (sql : String) {failure : Bytes} (h : isErr failure = true) :
      Answers (.prepare sql) [failure] (.error (errorOf failure))
  | selectDb (schema : String) (packet : Bytes) :
      Answers (.selectDb schema) [packet] (checkErr packet)
  | ping (packet : Bytes) : Answers .ping [packet] (checkErr packet)
  | closeStatement (id : Nat) : Answers (.closeStatement id) [] (.ok ())

/-! ## Taking a response -/

namespace Channel

variable {ρ α : Type} {format : RowFormat ρ}

/-- A packet that does not tell of a failure passes. -/
theorem receives_readChecked {packet : Bytes} (h : isErr packet = false) :
    Receives readChecked [packet] (.ok packet) :=
  (receives_readPacket packet).bind <|
    (receives_ofExcept_of_eq (checkErr_of_not_isErr h)).bind (receives_pure _)

theorem receives_readChecked_refused {packet : Bytes} (h : isErr packet = true) :
    Receives readChecked [packet] (.error (errorOf packet)) :=
  (receives_readPacket packet).bind <|
    (receives_ofExcept_of_eq (checkErr_of_isErr h)).bind_error _

/-! ### Columns and rows -/

theorem receives_readDefinitions {ds : List Definition} (h : ∀ d ∈ ds, d.Fits) :
    Receives (readDefinitions ds.length) (ds.map (·.packet)) (.ok (ds.map (·.column))) := by
  induction ds with
  | nil => exact receives_pure []
  | cons d ds ih =>
    have hd := Definition.parse_packet (h d List.mem_cons_self)
    have hds := ih fun d' hd' ↦ h d' (List.mem_cons_of_mem d hd')
    exact (receives_readPacket _).bind <| (receives_ofExcept_of_eq hd).bind (hds.map _)

theorem receives_readColumns {ds : List Definition} (h : ∀ d ∈ ds, d.Fits) (ending : ListEnd) :
    Receives (readColumns ds.length) (definitionPackets ds ending)
      (.ok (ds.map (·.column))) := by
  rw [definitionPackets]
  split
  · next hnil =>
    subst hnil
    exact receives_pure []
  · next hne =>
    refine (receives_readDefinitions h).bind ?_
    rw [if_neg (mt List.length_eq_zero_iff.mp hne)]
    exact (receives_readChecked ending.isErr_packet).map _

/-- `readRows` as a sequence of steps. -/
theorem readRows_eq : readRows = (do
    let packet ← readPacket
    if isEof packet then return ([], eofStatus packet)
    checkErr packet
    let (rows, status) ← readRows
    return (packet :: rows, status)) := by
  funext c
  rw [readRows, Attempt.bind_apply]
  split
  · next h => rw [h]
  · next packet d h =>
    rw [h]
    dsimp only
    split
    · rfl
    · cases hc : checkErr packet with
      | error e => rfl
      | ok _ =>
        change _ = (readRows >>= _) d
        rw [Attempt.bind_apply]
        rcases readRows d with ⟨_ | ⟨rows, status⟩, d⟩ <;> rfl

/-- A row in front of what else `readRows` takes. -/
theorem receives_readRows_cons {p : Bytes} (hp : IsRow p) {ps : List Bytes}
    {r : Except Error (List Bytes × Nat)} (h : Receives readRows ps r) :
    Receives readRows (p :: ps) (r.map fun x ↦ (p :: x.1, x.2)) := by
  rw [readRows_eq]
  refine (receives_readPacket p).bind ?_
  rw [hp.2]
  exact (receives_ofExcept_of_eq (checkErr_of_not_isErr hp.1)).bind (h.map _)

/-- Rows up to the packet that ends them. -/
theorem receives_readRows {rows : List Bytes} (h : ∀ p ∈ rows, IsRow p) {ending : ListEnd}
    (hending : ending.Fits) :
    Receives readRows (rows ++ [ending.packet]) (.ok (rows, ending.status)) := by
  induction rows with
  | nil =>
    rw [readRows_eq]
    refine (receives_readPacket _).bind ?_
    rw [if_pos ending.isEof_packet, ListEnd.eofStatus_packet hending]
    exact receives_pure _
  | cons p ps ih =>
    exact receives_readRows_cons (h p List.mem_cons_self)
      (ih fun p' hp' ↦ h p' (List.mem_cons_of_mem p hp'))

/-- Rows up to a failure. -/
theorem receives_readRows_broken {rows : List Bytes} (h : ∀ p ∈ rows, IsRow p) {failure : Bytes}
    (hf : isErr failure = true) :
    Receives readRows (rows ++ [failure]) (.error (errorOf failure)) := by
  induction rows with
  | nil =>
    rw [readRows_eq]
    refine (receives_readPacket _).bind ?_
    rw [isEof_of_isErr hf]
    exact (receives_ofExcept_of_eq (checkErr_of_isErr hf)).bind_error _
  | cons p ps ih =>
    exact receives_readRows_cons (h p List.mem_cons_self)
      (ih fun p' hp' ↦ h p' (List.mem_cons_of_mem p hp'))

/-! ### Replies -/

theorem columnCount_lenEncInt {n : Nat} (h : n < 2 ^ 64) : columnCount (lenEncInt n) = .ok n := by
  have hr := (reads_lenEncInt h).run []
  rw [List.append_nil] at hr
  rw [columnCount, hr]
  rfl

/-- A reply that begins with a header goes on with rows. -/
theorem receives_readReply_header {header : Header} (h : header.Fits) {ps : List Bytes}
    {r : Except Error (List Bytes × Nat)} (hr : Receives readRows ps r) :
    Receives readReply (header.packets ++ ps)
      (r.map fun x ↦ .rows header.columns x.1 x.2) := by
  obtain ⟨b, bs, hb, herr, hnull, hzero, -⟩ := lenEncInt_cases header.definitions.length
  have hcheck : checkErr (lenEncInt header.definitions.length) = .ok () :=
    checkErr_of_not_isErr (by simpa [isErr, hb] using herr)
  have hok : ¬ isOk (lenEncInt header.definitions.length) = true := by
    have hpos := h.pos
    simp only [isOk, hb, List.head?_cons, beq_iff_eq, Option.some.injEq]
    exact fun e ↦ by have := hzero e; omega
  have hfile : (lenEncInt header.definitions.length).head? ≠ some 0xfb := by
    simpa [hb] using hnull
  refine (receives_readPacket _).bind ?_
  refine (receives_ofExcept_of_eq hcheck).bind ?_
  rw [if_neg hok, if_neg hfile]
  refine (receives_ofExcept_of_eq (columnCount_lenEncInt h.count)).bind ?_
  exact (receives_readColumns h.definitions header.ending).bind (hr.map _)

/-- Every result is taken as the reply that it is. -/
theorem receives_readReply {result : Result ρ} (h : result.Fits format) :
    Receives readReply (result.packets format) (.ok (result.reply format)) := by
  cases result with
  | done d message =>
    refine (receives_readPacket _).bind ?_
    refine (receives_ofExcept_of_eq (checkErr_of_not_isErr (by rfl))).bind ?_
    rw [if_pos (by rfl)]
    exact (receives_ofExcept_of_eq (Done.parse_packet h message)).map _
  | rows header rows ending =>
    obtain ⟨hheader, hrows, hending⟩ := h
    refine receives_readReply_header hheader (receives_readRows ?_ hending)
    rintro p hp
    obtain ⟨row, hrow, rfl⟩ := List.mem_map.mp hp
    exact format.isRow hheader.pos (hrows row hrow)

/-- A failure in place of a reply. -/
theorem receives_readReply_refused {failure : Bytes} (h : isErr failure = true) :
    Receives readReply [failure] (.error (errorOf failure)) :=
  (receives_readPacket failure).bind <|
    (receives_ofExcept_of_eq (checkErr_of_isErr h)).bind_error _

/-- `readReplies` as a sequence of steps. -/
theorem readReplies_eq (read : Reply → Except Error α) : readReplies read = (do
    let (reply, a) ← readReplyAs read
    if reply.moreResults then
      let more ← readReplies read
      return a :: more
    else return [a]) := by
  funext c
  rw [readReplies, Attempt.bind_apply]
  split
  · next h => rw [h]
  · next reply a d h =>
    rw [h]
    dsimp only
    split
    · change _ = (readReplies read >>= _) d
      rw [Attempt.bind_apply]
      rcases readReplies read d with ⟨_ | more, d⟩ <;> rfl
    · rfl

/-- A reading of replies gives what each result of a response means. -/
theorem receives_readReplies {read : Reply → Except Error α} {meaning : Result ρ → α}
    (hread : ∀ r : Result ρ, r.Fits format → read (r.reply format) = .ok (meaning r))
    {s : Response ρ} (h : s.Fits format) :
    Receives (readReplies read) (s.packets format) (s.results.map (·.map meaning)) := by
  have hreply (r : Result ρ) (hr : r.Fits format) :
      Receives (readReplyAs read) (r.packets format) (.ok (r.reply format, meaning r)) := by
    rw [← List.append_nil (r.packets format)]
    exact (receives_readReply hr).bind ((receives_ofExcept_of_eq (hread r hr)).map _)
  induction s with
  | last r =>
    have hlast : (r.reply format).moreResults = false := r.moreResults_reply format ▸ h.2
    rw [readReplies_eq, Response.packets, ← List.append_nil (r.packets format)]
    refine (hreply r h.1).bind ?_
    dsimp only
    rw [hlast]
    exact receives_pure _
  | more r rest ih =>
    have hmore : (r.reply format).moreResults = true := r.moreResults_reply format ▸ h.2.1
    rw [readReplies_eq]
    refine (hreply r h.1).bind ?_
    dsimp only
    rw [if_pos hmore]
    have hrest := (ih h.2.2).map (meaning r :: ·)
    cases hres : rest.results <;> simpa [Response.results, hres, Except.map] using hrest
  | refused failure =>
    rw [readReplies_eq]
    exact ((receives_readReply_refused h).bind_error _).bind_error _
  | broken header rows failure =>
    obtain ⟨hheader, hrows, hfailure⟩ := h
    have hp : ∀ p ∈ rows.map format.packet, IsRow p := by
      intro p hp
      obtain ⟨row, hrow, rfl⟩ := List.mem_map.mp hp
      exact format.isRow hheader.pos (hrows row hrow)
    rw [readReplies_eq]
    exact ((receives_readReply_header hheader (receives_readRows_broken hp hfailure)).bind_error
      _).bind_error _

/-! ### Commands -/

theorem receives_send (payload : Bytes) : Receives (send payload) [] (.ok ()) :=
  receives_update (incoming_sendCommand payload)

/-- A command whose reply only tells of success or failure takes one packet, whatever that is. -/
theorem receives_simple (payload packet : Bytes) :
    Receives (simple payload) [packet] (checkErr packet) := by
  refine (receives_send payload).bind ?_
  cases h : isErr packet with
  | false =>
    rw [checkErr_of_not_isErr h]
    exact (receives_readChecked h).map _
  | true =>
    rw [checkErr_of_isErr h]
    exact (receives_readChecked_refused h).bind_error _

/-- The cells of the rows of a query are read back. -/
theorem toQueryResult_reply {r : Result (List (Option Bytes))} (h : r.Fits textRows) :
    (r.reply textRows).toQueryResult = .ok r.toQueryResult := by
  cases r with
  | done d message => rfl
  | rows header rows ending =>
    obtain ⟨-, hrows, -⟩ := h
    have hmap : (rows.map textRowPacket).mapM (textRow header.columns.length) = .ok rows := by
      induction rows with
      | nil => rfl
      | cons row rows ih =>
        obtain ⟨hlen, hcells⟩ := hrows row List.mem_cons_self
        have hrow := textRow_textRowPacket hcells
        rw [hlen] at hrow
        have hrest := ih fun row' hrow' ↦ hrows row' (List.mem_cons_of_mem row hrow')
        simp only [List.map_cons, List.mapM_cons, Header.columns, List.length_map] at hrest ⊢
        rw [hrow, hrest]
        rfl
    simp only [Result.reply, Reply.toQueryResult, textRows, hmap]
    rfl

theorem receives_execute {id : Nat} {params : List Binding} {s : Response Bytes}
    (h : s.Fits binaryRows) :
    Receives (execute id params) (s.packets binaryRows) (s.first.map Result.toStatementResult) := by
  have hread (r : Result Bytes) : (r.reply binaryRows).toStatementResult = r.toStatementResult := by
    cases r with
    | done d message => rfl
    | rows header rows ending =>
      simp [Result.reply, Reply.toStatementResult, Result.toStatementResult, binaryRows]
  have hr : Receives (readReplies fun reply ↦ .ok reply.toStatementResult) (s.packets binaryRows)
      (s.results.map (·.map Result.toStatementResult)) :=
    receives_readReplies (fun r _ ↦ by rw [← hread r]) h
  have hfirst : (s.results.map (·.map Result.toStatementResult)).map (·.headD (.done {})) =
      s.first.map Result.toStatementResult := by
    cases s with
    | more r rest =>
      cases hrest : rest.results <;> simp [Response.first, Response.results, hrest, Except.map]
    | _ => rfl
  rw [← hfirst]
  exact (receives_send _).bind (hr.map _)

/-- The preparation of a statement takes the definitions of its parameters and of its columns. -/
theorem receives_prepare {sql : String} {p : PrepareOk} {params columns : List Definition}
    (afterParams afterColumns : ListEnd) (h : p.Fits) (hparams : params.length = p.params)
    (hcolumns : columns.length = p.columns) (hfits : ∀ d ∈ params ++ columns, d.Fits) :
    Receives (prepare sql)
      (p.packet :: (definitionPackets params afterParams ++ definitionPackets columns afterColumns))
      (.ok { id := p.statementId, params := p.params, columns := columns.map (·.column) }) := by
  refine (receives_send _).bind ?_
  refine (receives_readChecked (by rfl)).bind ?_
  refine (receives_ofExcept_of_eq (PrepareOk.parse_packet h)).bind ?_
  have hp := receives_readColumns (fun d hd ↦ hfits d (List.mem_append_left _ hd)) afterParams
  have hc := receives_readColumns (fun d hd ↦ hfits d (List.mem_append_right _ hd)) afterColumns
  rw [hparams] at hp
  rw [hcolumns] at hc
  exact hp.bind (hc.map _)

/-- Every command takes the packets of its response and gives what they mean. -/
theorem receives_ask {r : Request} {packets : List Bytes} {outcome : Except Error r.Answer}
    (h : Answers r packets outcome) : Receives (ask r) packets outcome := by
  cases h with
  | query sql h =>
    exact (receives_send _).bind (receives_readReplies (fun _ hr ↦ toQueryResult_reply hr) h)
  | execute id params h => exact receives_execute h
  | prepared sql afterParams afterColumns h hparams hcolumns hfits =>
    exact receives_prepare afterParams afterColumns h hparams hcolumns hfits
  | unprepared sql h =>
    exact (receives_send _).bind ((receives_readChecked_refused h).bind_error _)
  | selectDb schema packet => exact receives_simple _ packet
  | ping packet => exact receives_simple _ packet
  | closeStatement id => exact receives_send _

/-- A command takes exactly its own response from the stream and leaves what follows unread, and it
gives what the response means: all results of a query with all their cells, the first result of an
execution with its rows as they are, or what the server told of a statement that it prepared.  A
response that ends with a failure gives that failure. -/
theorem ask_takes_response (r : Request) {packets : List Bytes} {outcome : Except Error r.Answer}
    (h : Answers r packets outcome) {bs : Bytes} (hbs : Framed packets bs) (s : Bytes) (c : Channel)
    (hc : c.incoming = bs ++ s) : (ask r c).1 = outcome ∧ (ask r c).2.incoming = s :=
  receives_ask h bs c s hbs hc

/-- A flagged outcome, and behind it two rows of which one has no value. -/
def outcomeAndRows : Response (List (Option Bytes)) :=
  .more (.done { affectedRows := 300, statusFlags := 0x000a } []) <|
    .last (.rows { definitions := [{ column := { name := "a", fieldType := .varString } }] }
      [[none], [some [0xfe]]] { status := 0x0002 })

theorem fits_outcomeAndRows : outcomeAndRows.Fits textRows := by
  refine ⟨⟨by decide, by decide, by decide, by decide⟩, by decide, ⟨⟨?_, ?_, ?_⟩, ?_, ?_⟩,
    by decide⟩
  · decide
  · decide
  · intro d hd
    cases List.mem_singleton.mp hd
    constructor <;> decide
  · intro row hrow
    simp only [List.mem_cons, List.not_mem_nil, or_false] at hrow
    rcases hrow with rfl | rfl
    · exact ⟨rfl, by simp⟩
    · exact ⟨rfl, by simp⟩
  · constructor <;> decide

theorem ask_takes_outcomeAndRows :
    (ask (.query "CALL p()")
        { incoming := stream 1 (outcomeAndRows.packets textRows) ++ [0x01, 0x00] }).1 =
      .ok [.done { affectedRows := 300, statusFlags := 0x000a },
        .rows [{ name := "a", fieldType := .varString }] [[none], [some [0xfe]]]] ∧
    (ask (.query "CALL p()")
        { incoming := stream 1 (outcomeAndRows.packets textRows) ++ [0x01, 0x00] }).2.incoming =
      [0x01, 0x00] :=
  ask_takes_response _ (.query _ fits_outcomeAndRows) (framed_stream 1 _) _ _ rfl

end Channel

end MariaClient
