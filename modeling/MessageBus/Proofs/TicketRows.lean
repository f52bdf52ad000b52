import Mathlib.Data.List.Forall2
import MessageBus.Proofs.Catalog
import MessageBus.Proofs.ClaimReply

/-! Tickets and their rows. A database sends back what was written to it, except that it keeps times
in whole microseconds and that a count of failures is cut to what its column holds; and every row of
the right types is read, unless its state or its count is none that a ticket can have. -/
namespace MessageBus.Database

/-! The columns. -/

/-- A column as it is selected: what it is called in the table and in the row, its type, and whether
it may be null. -/
structure ColumnSpec where
  source : String
  name : String
  type : SqlType
  nullable : Bool

def ColumnSpec.selection (spec : ColumnSpec) : String :=
  if spec.source = spec.name then s!"t.{spec.source}" else s!"t.{spec.source} AS {spec.name}"

/-- The columns of a ticket. The key of the queue has a type for each kind. -/
def ticketColumns (kind : TicketKind) : List ColumnSpec :=
  let table := TicketTable.ofKind kind
  let key := match kind with
    | .subscriber => SqlType.uuid
    | .tempQueue => SqlType.int4
  [⟨table.id, "id_ticket", .uuid, false⟩,
    ⟨"id_message", "id_message", .uuid, false⟩,
    ⟨table.queue, "id_queue", key, false⟩,
    ⟨table.owner, "id_owner", .uuid, true⟩,
    ⟨"last_access_utc", "last_access_utc", .timestamptz, true⟩,
    ⟨"state", "state", .int2, false⟩,
    ⟨"snapshot", "snapshot", .bytea, true⟩,
    ⟨"retry_count", "retry_count", .int4, false⟩,
    ⟨"delayed_to_utc", "delayed_to_utc", .timestamptz, true⟩,
    ⟨"concurrency_token", "concurrency_token", .uuid, false⟩]

/-- These are the columns that are selected, in this order. -/
theorem columns_eq (kind : TicketKind) : (TicketTable.ofKind kind).columns =
    ", ".intercalate ((ticketColumns kind).map ColumnSpec.selection) := by
  cases kind <;> decide +kernel

/-- A value as a database holds it: times have no parts of a microsecond. -/
def SqlValue.Stored : SqlValue → Prop
  | time t => wholeMicros t = t
  | _ => True

/-- The cell of a row is one of the column. -/
structure ColumnSpec.Holds (spec : ColumnSpec) (cell : String × Option SqlValue) : Prop where
  name : cell.1 = spec.name
  null : cell.2 = none → spec.nullable = true
  value : ∀ v, cell.2 = some v → v.type = spec.type ∧ v.Stored

/-- The row has the columns of a ticket, with values of their types. -/
def IsTicketRow (kind : TicketKind) (row : SqlRow) : Prop :=
  List.Forall₂ ColumnSpec.Holds (ticketColumns kind) row

/-! What is written. -/

/-- The value that a parameter leaves in its column. -/
def SqlParam.stored? : SqlParam → Option SqlValue
  | value v => some v
  | null | int2List _ => none

/-- The row of a ticket, column by column as publishing and commits write them. -/
def rowOfTicket (t : Ticket) : SqlRow :=
  let column (name : String) (param : SqlParam) := (name, param.stored?)
  [column "id_ticket" (.uuid t.id.uuid),
    column "id_message" (.uuid t.message.uuid),
    column "id_queue" (queueParam t.queue),
    column "id_owner" (.optional .uuid t.owner),
    column "last_access_utc" (.optional .time t.lastAccess),
    column "state" (.code t.state.code),
    column "snapshot" (.optional .bytes t.snapshot),
    column "retry_count" (.int4 (countColumn t.retryCount)),
    column "delayed_to_utc" (.optional .time t.delayedTo),
    column "concurrency_token" (.uuid t.token.uuid)]

/-! Times and counts in their columns. -/

/-- What has been cut to whole microseconds stays as it is. -/
theorem wholeMicros_idem (t : Instant) : wholeMicros (wholeMicros t) = wholeMicros t := by
  cases cut : Instant.ofNanos? (epoch + (t.nanos - epoch).tdiv 1000 * 1000) with
  | none =>
    have same : wholeMicros t = t := by rw [wholeMicros, cut]; rfl
    rw [same, same]
  | some u =>
    have is : wholeMicros t = u := by rw [wholeMicros, cut]; rfl
    obtain ⟨-, nanos⟩ := Instant.ofNanos?_eq_some_iff.1 cut
    have micros : (u.nanos - epoch).tdiv 1000 = (t.nanos - epoch).tdiv 1000 := by
      rw [show u.nanos - epoch = (t.nanos - epoch).tdiv 1000 * 1000 by omega]
      exact Int.mul_tdiv_cancel _ (by decide)
    rw [is, wholeMicros, micros, cut]
    rfl

/-- A count that fits stands in its column, a larger one as the largest number of it. -/
theorem toInt_countColumn (n : UInt32) : (countColumn n).toInt = min n.toNat maxInt4 := by
  have small : min n.toNat maxInt4 < 2 ^ 31 :=
    Nat.lt_of_le_of_lt (Nat.min_le_right _ _) (by decide)
  rw [countColumn, Int32.toInt_ofNat_of_lt small]

theorem countColumn_of_toInt {n : Int32} (nonneg : 0 ≤ n.toInt) :
    countColumn n.toInt.toNat.toUInt32 = n := by
  have below := n.toInt_lt
  have fits : n.toInt.toNat < UInt32.size := Nat.lt_trans (by omega : _ < 2 ^ 31) (by decide)
  have count : n.toInt.toNat.toUInt32.toNat = n.toInt.toNat := UInt32.toNat_ofNat_of_lt' fits
  refine Int32.toInt_inj.1 ?_
  rw [toInt_countColumn, count, maxInt4]
  omega

/-- The count that comes back from the column of a count. -/
theorem toUInt32_countColumn (n : UInt32) :
    (countColumn n).toInt.toNat.toUInt32 = .ofNat (min n.toNat maxInt4) := by
  rw [toInt_countColumn]
  rfl

/-! What is read. -/

/-- A column is read as the value that stands in it. -/
theorem cell_required {α : Type} [Column α] {row : SqlRow} {name : String} {value : SqlValue}
    {a : α} (stands : List.lookup name row.reverse = some (some value))
    (reads : Column.ofValue? value = some a) (wrap : String → String) :
    cell row wrap α name = .ok a := by
  rw [cell, SqlRow.get, stands]
  simp only [Column.read, reads]
  rfl

/-- A column that may be null is read as what stands in it. -/
theorem cell_optional {α : Type} [Column α] {row : SqlRow} {name : String} {value : α → SqlValue}
    {a? : Option α} (stands : List.lookup name row.reverse = some (a?.map value))
    (reads : ∀ a, Column.ofValue? (value a) = some a) (wrap : String → String) :
    cell row wrap (Option α) name = .ok a? := by
  rw [cell, SqlRow.get, stands]
  cases a? with
  | none => rfl
  | some a =>
    have readsSome : Column.ofValue? (value a) = some (some a) :=
      congrArg (Option.map some) (reads a)
    simp only [Option.map_some, Column.read, readsSome]
    rfl

/-- What stands in the columns of a ticket. -/
structure TicketCells where
  id : Uuid
  message : Uuid
  queue : QueueRef
  owner : Option Uuid
  lastAccess : Option Instant
  state : Int16
  snapshot : Option Bytes
  retryCount : Int32
  delayedTo : Option Instant
  token : Uuid

namespace TicketCells

def row (c : TicketCells) : SqlRow :=
  [("id_ticket", some (.uuid c.id)),
    ("id_message", some (.uuid c.message)),
    ("id_queue", (queueParam c.queue).stored?),
    ("id_owner", c.owner.map .uuid),
    ("last_access_utc", c.lastAccess.map .time),
    ("state", some (.int2 c.state)),
    ("snapshot", c.snapshot.map .bytes),
    ("retry_count", some (.int4 c.retryCount)),
    ("delayed_to_utc", c.delayedTo.map .time),
    ("concurrency_token", some (.uuid c.token))]

/-- What is written for a ticket. -/
def ofTicket (t : Ticket) : TicketCells where
  id := t.id.uuid
  message := t.message.uuid
  queue := t.queue
  owner := t.owner
  lastAccess := t.lastAccess.map wholeMicros
  state := .ofInt t.state.code
  snapshot := t.snapshot
  retryCount := countColumn t.retryCount
  delayedTo := t.delayedTo.map wholeMicros
  token := t.token.uuid

theorem row_ofTicket (t : Ticket) : (ofTicket t).row = rowOfTicket t := by
  obtain ⟨id, queue, message, owner, lastAccess, state, snapshot, retryCount, delayedTo, token⟩ := t
  cases owner <;> cases lastAccess <;> cases snapshot <;> cases delayedTo <;> rfl

/-- The ticket of the cells, when its state and its count are these. -/
def ticket (c : TicketCells) (state : TicketState) (retryCount : UInt32) : Ticket where
  id := ⟨c.id⟩
  queue := c.queue
  message := ⟨c.message⟩
  owner := c.owner
  lastAccess := c.lastAccess
  state := state
  snapshot := c.snapshot
  retryCount := retryCount
  delayedTo := c.delayedTo
  token := ⟨c.token⟩

theorem ticketOfRow_row (c : TicketCells) : ticketOfRow c.queue.kind c.row = do
    let state ← stateOfColumn c.state
    let retryCount ← retryCountOfColumn c.retryCount
    return c.ticket state retryCount := by
  have owner (wrap : String → String) :
      cell c.row wrap (Option Uuid) "id_owner" = .ok c.owner :=
    cell_optional rfl (fun _ => rfl) wrap
  have lastAccess (wrap : String → String) :
      cell c.row wrap (Option Instant) "last_access_utc" = .ok c.lastAccess :=
    cell_optional rfl (fun _ => rfl) wrap
  have snapshot (wrap : String → String) :
      cell c.row wrap (Option Bytes) "snapshot" = .ok c.snapshot :=
    cell_optional rfl (fun _ => rfl) wrap
  have delayedTo (wrap : String → String) :
      cell c.row wrap (Option Instant) "delayed_to_utc" = .ok c.delayedTo :=
    cell_optional rfl (fun _ => rfl) wrap
  simp only [ticketOfRow, owner, lastAccess, snapshot, delayedTo]
  obtain ⟨id, message, queue⟩ := c
  cases queue <;> rfl

end TicketCells

theorem stateOfColumn_eq_ok_iff {code : Int16} {state : TicketState} :
    stateOfColumn code = .ok state ↔ state.code = code.toInt := by
  rw [← TicketState.ofCode?_eq_some_iff, stateOfColumn, TicketState.ofCode]
  cases TicketState.ofCode? code.toInt <;> simp [Except.mapError]

theorem retryCountOfColumn_eq_ok_iff {n : Int32} {count : UInt32} :
    retryCountOfColumn n = .ok count ↔ 0 ≤ n ∧ count = n.toInt.toNat.toUInt32 := by
  unfold retryCountOfColumn
  split
  · next negative => simp [Int32.not_le.2 negative]
  · next nonneg => simp [Int32.not_lt.1 nonneg, eq_comm]

theorem TicketCells.ticketOfRow_eq_ok_iff {c : TicketCells} {t : Ticket} :
    ticketOfRow c.queue.kind c.row = .ok t ↔ ∃ state : TicketState,
      state.code = c.state.toInt ∧ 0 ≤ c.retryCount ∧
        t = c.ticket state c.retryCount.toInt.toNat.toUInt32 := by
  simp only [ticketOfRow_row, Store.bind_eq_ok_iff, Store.pure_eq_ok_iff, stateOfColumn_eq_ok_iff,
    retryCountOfColumn_eq_ok_iff]
  constructor
  · rintro ⟨state, code, _, ⟨nonneg, rfl⟩, rfl⟩
    exact ⟨state, code, nonneg, rfl⟩
  · rintro ⟨state, code, nonneg, rfl⟩
    exact ⟨state, code, _, ⟨nonneg, rfl⟩, rfl⟩

/-! Rows of the right types. -/

abbrev SqlType.Value : SqlType → Type
  | bool => Bool
  | bytea => Bytes
  | int2 => Int16
  | int4 => Int32
  | int8 => Int64
  | text => String
  | timestamptz => Instant
  | uuid => Uuid

def SqlType.value : (type : SqlType) → type.Value → SqlValue
  | bool => .bool
  | bytea => .bytes
  | int2 => .int2
  | int4 => .int4
  | int8 => .int8
  | text => .text
  | timestamptz => .time
  | uuid => .uuid

theorem SqlValue.exists_value {v : SqlValue} {type : SqlType} (h : v.type = type) :
    ∃ x, v = type.value x := by
  subst h
  cases v <;> exact ⟨_, rfl⟩

namespace ColumnSpec.Holds
variable {spec : ColumnSpec} {cell : String × Option SqlValue}

/-- In a column that must not be null there is a value of its type. -/
theorem required (h : spec.Holds cell) (required : spec.nullable = false) :
    ∃ x, cell = (spec.name, some (spec.type.value x)) := by
  obtain ⟨name, value⟩ := cell
  cases h.name
  cases value with
  | none => cases required.symm.trans (h.null rfl)
  | some v =>
    obtain ⟨x, is⟩ := SqlValue.exists_value (h.value v rfl).1
    exact ⟨x, by rw [is]⟩

theorem optional (h : spec.Holds cell) :
    ∃ x?, cell = (spec.name, Option.map spec.type.value x?) ∧
      ∀ x, x? = some x → (spec.type.value x).Stored := by
  obtain ⟨name, value⟩ := cell
  cases h.name
  cases value with
  | none => exact ⟨none, rfl, nofun⟩
  | some v =>
    obtain ⟨type, stored⟩ := h.value v rfl
    obtain ⟨x, rfl⟩ := SqlValue.exists_value type
    refine ⟨some x, rfl, ?_⟩
    rintro _ ⟨⟩
    exact stored

end ColumnSpec.Holds

/-- The times among the cells are as a database holds them. -/
structure TicketCells.WholeTimes (c : TicketCells) : Prop where
  lastAccess : c.lastAccess.map wholeMicros = c.lastAccess
  delayedTo : c.delayedTo.map wholeMicros = c.delayedTo

theorem map_wholeMicros_of_stored {t? : Option Instant}
    (stored : ∀ t, t? = some t → (SqlValue.time t).Stored) : t?.map wholeMicros = t? := by
  cases t? with
  | none => rfl
  | some t => exact congrArg some (stored t rfl)

theorem exists_cells {kind : TicketKind} {row : SqlRow} (h : IsTicketRow kind row) :
    ∃ c : TicketCells, c.queue.kind = kind ∧ c.WholeTimes ∧ row = c.row := by
  -- Ten columns, ten cells, each of them known to the type of its value.
  simp only [IsTicketRow, ticketColumns, List.forall₂_cons_left_iff,
    List.forall₂_nil_left_iff] at h
  obtain ⟨_, _, ofId, ⟨_, _, ofMessage, ⟨_, _, ofKey, ⟨_, _, ofOwner, ⟨_, _, ofAccess, rest, rfl⟩,
    rfl⟩, rfl⟩, rfl⟩, rfl⟩ := h
  obtain ⟨_, _, ofState, ⟨_, _, ofSnapshot, ⟨_, _, ofCount, ⟨_, _, ofDelay,
    ⟨_, _, ofToken, rfl, rfl⟩, rfl⟩, rfl⟩, rfl⟩, rfl⟩ := rest
  obtain ⟨id, rfl⟩ := ofId.required rfl
  obtain ⟨message, rfl⟩ := ofMessage.required rfl
  obtain ⟨key, rfl⟩ := ofKey.required rfl
  obtain ⟨owner, rfl, -⟩ := ofOwner.optional
  obtain ⟨access, rfl, accessStored⟩ := ofAccess.optional
  obtain ⟨state, rfl⟩ := ofState.required rfl
  obtain ⟨snapshot, rfl, -⟩ := ofSnapshot.optional
  obtain ⟨count, rfl⟩ := ofCount.required rfl
  obtain ⟨delay, rfl, delayStored⟩ := ofDelay.optional
  obtain ⟨token, rfl⟩ := ofToken.required rfl
  have whole := map_wholeMicros_of_stored accessStored
  have due := map_wholeMicros_of_stored delayStored
  cases kind with
  | subscriber =>
    exact ⟨⟨id, message, .subscriber ⟨key⟩, owner, access, state, snapshot, count, delay, token⟩,
      rfl, ⟨whole, due⟩, rfl⟩
  | tempQueue =>
    exact ⟨⟨id, message, .job ⟨key⟩, owner, access, state, snapshot, count, delay, token⟩,
      rfl, ⟨whole, due⟩, rfl⟩

/-- What is written for a ticket has the types of its columns. -/
theorem isTicketRow_rowOfTicket (t : Ticket) : IsTicketRow t.kind (rowOfTicket t) := by
  have required {source name : String} {type : SqlType} {v : SqlValue} (is : v.type = type)
      (stored : v.Stored) : ColumnSpec.Holds ⟨source, name, type, false⟩ (name, some v) :=
    ⟨rfl, nofun, fun _ same => Option.some.inj same ▸ ⟨is, stored⟩⟩
  have optional {α : Type} {source name : String} {type : SqlType} {param : α → SqlParam}
      (writes : ∀ a v, (param a).stored? = some v → v.type = type ∧ v.Stored) (a? : Option α) :
      ColumnSpec.Holds ⟨source, name, type, true⟩ (name, (SqlParam.optional param a?).stored?) := by
    refine ⟨rfl, fun _ => rfl, fun v is => ?_⟩
    cases a? with
    | none => cases is
    | some a => exact writes a v is
  have key : ColumnSpec.Holds ((ticketColumns t.kind).getD 2 ⟨"", "", .uuid, false⟩)
      ("id_queue", (queueParam t.queue).stored?) := by
    obtain ⟨id, queue⟩ := t
    cases queue with
    | subscriber id => exact required rfl trivial
    | job id => exact required rfl trivial
  refine .cons (required rfl trivial) (.cons (required rfl trivial) (.cons key ?_))
  refine .cons (optional (fun _ _ => by rintro ⟨⟩; exact ⟨rfl, trivial⟩) t.owner) ?_
  refine .cons (optional (fun a _ => by rintro ⟨⟩; exact ⟨rfl, wholeMicros_idem a⟩) t.lastAccess) ?_
  refine .cons (required rfl trivial) ?_
  refine .cons (optional (fun _ _ => by rintro ⟨⟩; exact ⟨rfl, trivial⟩) t.snapshot) ?_
  refine .cons (required rfl trivial) ?_
  refine .cons (optional (fun a _ => by rintro ⟨⟩; exact ⟨rfl, wholeMicros_idem a⟩) t.delayedTo) ?_
  exact .cons (required rfl trivial) .nil

/-! Back and forth. -/

theorem toInt_ofInt_code (state : TicketState) :
    (Int16.ofInt state.code).toInt = state.code := by
  cases state <;> rfl

theorem countColumn_nonneg (n : UInt32) : 0 ≤ countColumn n := by
  rw [Int32.le_iff_toInt_le, toInt_countColumn]
  exact Int.natCast_nonneg _

namespace TicketCells
variable {c : TicketCells}

theorem mem_row_state (c : TicketCells) {n : Int16} :
    ("state", some (.int2 n)) ∈ c.row ↔ n = c.state := by
  simp [row]

theorem mem_row_retryCount (c : TicketCells) {n : Int32} :
    ("retry_count", some (.int4 n)) ∈ c.row ↔ n = c.retryCount := by
  simp [row]

/-- A ticket that was read is written back as it was. -/
theorem rowOfTicket_ticket (whole : c.WholeTimes) {state : TicketState}
    (code : state.code = c.state.toInt) (nonneg : 0 ≤ c.retryCount) :
    rowOfTicket (c.ticket state c.retryCount.toInt.toNat.toUInt32) = c.row := by
  rw [← row_ofTicket]
  refine congrArg row ?_
  have count := countColumn_of_toInt (Int32.le_iff_toInt_le.1 nonneg)
  simp only [ofTicket, ticket, whole.lastAccess, whole.delayedTo, code, Int16.ofInt_toInt, count]

/-- A ticket that was written is read as what is left of it. -/
theorem ticketOfRow_rowOfTicket (t : Ticket) : ticketOfRow t.kind (rowOfTicket t) = .ok { t with
    lastAccess := t.lastAccess.map wholeMicros
    retryCount := .ofNat (min t.retryCount.toNat maxInt4)
    delayedTo := t.delayedTo.map wholeMicros } := by
  have read := (ticketOfRow_eq_ok_iff (c := ofTicket t)).2
    ⟨t.state, (toInt_ofInt_code t.state).symm, countColumn_nonneg t.retryCount, rfl⟩
  rw [row_ofTicket] at read
  refine read.trans (congrArg Except.ok ?_)
  simp only [ticket, ofTicket, toUInt32_countColumn]

end TicketCells

/-! What the statements write. -/

/-- What stands in a column of the row of a ticket. -/
def cellOf (t : Ticket) (name : String) : Option SqlValue := (List.lookup name (rowOfTicket t)).join

/-- A session that makes something of one statement sends that statement. -/
theorem Ends.execute_bind {α : Type} {operation sql : String} {params : List SqlParam}
    {f : SqlReply → Except StoreError α} {sent : List Exchange} {outcome : Except StoreError α}
    (h : Ends (Session.execute operation sql params >>=
      fun reply => ExceptT.mk (pure (f reply))).run sent outcome) :
    ∃ answer, sent = [⟨.execute sql params, answer⟩] := by
  rcases h.bind_cases with ⟨e, failed, -⟩ | ⟨reply, first, rest, rfl, early, late⟩
  · obtain ⟨answer, is, -⟩ := failed.execute
    exact ⟨answer, is⟩
  · obtain ⟨answer, rfl, -⟩ := early.execute
    obtain ⟨rfl, -⟩ := late.of_pure
    exact ⟨answer, List.append_nil _⟩

/-- A new ticket is inserted with what stands in its columns; those that are not named are null, and
its count is zero. -/
theorem insertTicket_sends {t : Ticket} {sent : List Exchange} {outcome : Except StoreError Unit}
    (ends : Ends (insertTicket t).run sent outcome) :
    ∃ sql params answer, sent = [⟨.execute sql params, answer⟩] ∧
      params.map SqlParam.stored? =
        ["id_ticket", "id_message", "id_queue", "state", "concurrency_token"].map
          (cellOf { t with state := .ready }) := by
  obtain ⟨answer, is⟩ := Ends.execute_bind ends
  exact ⟨_, _, answer, is, rfl⟩

/-- A commit sends what it shows of the ticket and what it writes, in the order of its statement.
The snapshot is the one that stays when a commit brings none. -/
theorem commit_sends {fresh : Store.Fresh} {consumer : Consumer} {t : Ticket}
    {update : TicketUpdate} {now : Instant} {sent : List Exchange}
    {outcome : Except StoreError CommitOutcome} (held : t.isHeldBy consumer t.token)
    (ends : Ends (commit fresh consumer t.id t.token update now).run sent outcome) :
    let after := t.updated update (fresh.token 0) now
    sent = [] ∨ ∃ sql params answer snapshot, sent = [⟨.execute sql params, answer⟩] ∧
      params.map SqlParam.stored? =
        [cellOf t "id_ticket", cellOf t "concurrency_token", cellOf t "id_owner",
          cellOf after "state", cellOf after "retry_count", cellOf after "delayed_to_utc",
          snapshot, cellOf after "last_access_utc", cellOf after "concurrency_token",
          cellOf t "id_queue"] ∧
      snapshot.or (cellOf t "snapshot") = cellOf after "snapshot" := by
  intro after
  simp only [Ticket.isHeldBy, Bool.and_eq_true, beq_iff_eq] at held
  obtain ⟨⟨queue, -⟩, owned⟩ := held
  have key : cellOf t "id_queue" = (queueParam consumer.queue).stored? :=
    congrArg (fun queue => (queueParam queue).stored?) queue
  have owner : cellOf t "id_owner" = some (.uuid consumer.instanceUuid) :=
    congrArg (fun owner => (SqlParam.optional .uuid owner).stored?) owned
  have snapshot : (SqlParam.optional .bytes update.snapshot).stored?.or (cellOf t "snapshot") =
      cellOf after "snapshot" := by
    change _ = (SqlParam.optional .bytes (update.snapshot.or t.snapshot)).stored?
    cases update.snapshot <;> rfl
  rcases ends.bind_cases with ⟨e, refused, -⟩ | ⟨_, first, rest, rfl, checked, sends⟩
  · exact .inl refused.of_pure.1
  · obtain ⟨rfl, -⟩ := checked.of_pure
    obtain ⟨answer, is⟩ := Ends.execute_bind sends
    refine .inr ⟨_, _, answer, _, is, ?_, snapshot⟩
    rw [key, owner]
    rfl

/-- Outside of leap seconds an instant of whole microseconds is kept as it is. -/
theorem wholeMicros_of_dvd {t : Instant} (noLeap : ¬ t.isLeap) (micros : 1000 ∣ t.nanos) :
    wholeMicros t = t := by
  have cut : epoch + (t.nanos - epoch).tdiv 1000 * 1000 = t.nanos := by
    have whole : (1000 : Int) ∣ t.nanos - epoch := Int.dvd_sub micros (by decide)
    rw [Int.tdiv_mul_cancel whole]
    omega
  rw [wholeMicros, cut, Instant.ofNanos?_nanos noLeap]
  rfl

/-- A row with the columns of a ticket is read exactly if its state is one of the six and its count
of failures is not negative, and what was read is written back as it was. What is written for a
ticket is read as the ticket, as far as its count fits its column and its times are in whole
microseconds; a count that does not fit becomes the largest number of the column. The columns are
those that are selected. -/
theorem ticketRows_faithful :
    (∀ kind row, IsTicketRow kind row →
      ((∃ t, ticketOfRow kind row = .ok t) ↔
        (∃ state : TicketState, ("state", some (.int2 (.ofInt state.code))) ∈ row) ∧
        ∃ n : Int32, ("retry_count", some (.int4 n)) ∈ row ∧ 0 ≤ n) ∧
      ∀ t, ticketOfRow kind row = .ok t → t.kind = kind ∧ rowOfTicket t = row) ∧
    (∀ t : Ticket, IsTicketRow t.kind (rowOfTicket t) ∧
      ticketOfRow t.kind (rowOfTicket t) = .ok { t with
        lastAccess := t.lastAccess.map wholeMicros
        retryCount := .ofNat (min t.retryCount.toNat maxInt4)
        delayedTo := t.delayedTo.map wholeMicros } ∧
      (t.retryCount.toNat ≤ maxInt4 →
        (∀ time, t.lastAccess = some time ∨ t.delayedTo = some time →
          ¬ time.isLeap ∧ 1000 ∣ time.nanos) →
        ticketOfRow t.kind (rowOfTicket t) = .ok t)) ∧
    (∀ n : UInt32, 0 ≤ countColumn n ∧
      (maxInt4 < n.toNat → countColumn n = Int32.maxValue)) ∧
    ∀ kind, (TicketTable.ofKind kind).columns =
      ", ".intercalate ((ticketColumns kind).map ColumnSpec.selection) := by
  refine ⟨fun kind row h => ?_, fun t => ⟨isTicketRow_rowOfTicket t, ?_, fun fits whole => ?_⟩,
    fun n => ⟨countColumn_nonneg n, fun large => ?_⟩, columns_eq⟩
  · obtain ⟨c, rfl, whole, rfl⟩ := exists_cells h
    refine ⟨?_, fun t read => ?_⟩
    · simp only [c.mem_row_state, c.mem_row_retryCount, TicketCells.ticketOfRow_eq_ok_iff]
      constructor
      · rintro ⟨_, state, code, nonneg, rfl⟩
        exact ⟨⟨state, by rw [code, Int16.ofInt_toInt]⟩, _, rfl, nonneg⟩
      · rintro ⟨⟨state, same⟩, _, rfl, nonneg⟩
        exact ⟨_, state, by rw [← same, toInt_ofInt_code], nonneg, rfl⟩
    · obtain ⟨state, code, nonneg, rfl⟩ := TicketCells.ticketOfRow_eq_ok_iff.1 read
      exact ⟨rfl, TicketCells.rowOfTicket_ticket whole code nonneg⟩
  · exact TicketCells.ticketOfRow_rowOfTicket t
  · have access : t.lastAccess.map wholeMicros = t.lastAccess :=
      map_wholeMicros_of_stored fun time is =>
        wholeMicros_of_dvd (whole time (.inl is)).1 (whole time (.inl is)).2
    have delay : t.delayedTo.map wholeMicros = t.delayedTo :=
      map_wholeMicros_of_stored fun time is =>
        wholeMicros_of_dvd (whole time (.inr is)).1 (whole time (.inr is)).2
    rw [TicketCells.ticketOfRow_rowOfTicket, access, delay, Nat.min_eq_left fits,
      UInt32.ofNat_toNat]
  · refine Int32.toInt_inj.1 ?_
    rw [toInt_countColumn, Nat.min_eq_right (Nat.le_of_lt large)]
    rfl

/-- A ticket that failed and waits for its next try. -/
def delayedTicket : Ticket :=
  { Ticket.fresh ⟨.ofNat 1000⟩ ⟨.ofNat 1001⟩ (.subscriber ⟨.ofNat 5⟩) ⟨.ofNat 7⟩ with
    owner := some (.ofNat 8)
    lastAccess := some default
    state := .delayed
    retryCount := 3
    delayedTo := some ⟨30_000_000_000, by decide⟩ }

theorem ticketRows_faithful_delayed :
    ticketOfRow .subscriber (rowOfTicket delayedTicket) = .ok delayedTicket ∧
      (∃ n : Int32, ("retry_count", some (.int4 n)) ∈ rowOfTicket delayedTicket ∧ 0 ≤ n) ∧
      countColumn 3_000_000_000 = Int32.maxValue := by
  obtain ⟨rows, tickets, counts, -⟩ := ticketRows_faithful
  have times (time : Instant)
      (is : delayedTicket.lastAccess = some time ∨ delayedTicket.delayedTo = some time) :
      ¬ time.isLeap ∧ 1000 ∣ time.nanos := by
    rcases is with ⟨⟨⟩⟩ | ⟨⟨⟩⟩ <;> decide
  have back := (tickets delayedTicket).2.2 (by decide) times
  have row := isTicketRow_rowOfTicket delayedTicket
  exact ⟨back, ((rows .subscriber _ row).1.1 ⟨_, back⟩).2, (counts 3_000_000_000).2 (by decide)⟩

/-- The time of an access is cut, although the count of failures fits. -/
theorem ticketRows_cut_nanoseconds :
    let t := { delayedTicket with lastAccess := some ⟨1, by decide⟩ }
    t.retryCount.toNat ≤ maxInt4 ∧ ticketOfRow t.kind (rowOfTicket t) ≠ .ok t := by
  intro t
  refine ⟨by decide, fun same => ?_⟩
  rw [TicketCells.ticketOfRow_rowOfTicket] at same
  exact absurd (congrArg Ticket.lastAccess (Except.ok.inj same)) (by decide)

end MessageBus.Database
