import MessageBus.Database.Catalog
import MessageBus.Store.Delivery

/-! Publishing, claims and commits in a database. The tickets of subscribers and those of jobs have
a table each, and every conditional write is one statement. -/
namespace MessageBus.Database

/-- The table of the tickets of one kind, with the columns whose names depend on the kind. -/
structure TicketTable where
  table : String
  id : String
  queue : String
  owner : String
  deriving DecidableEq, Repr

def TicketTable.ofKind : TicketKind → TicketTable
  | .subscriber =>
    ⟨"bus.subscriber_message", "id_subscriber_message", "id_subscriber", "id_subscriber_instance"⟩
  | .tempQueue =>
    ⟨"bus.message_temp_queue", "id_message_temp_queue", "id_job", "id_job_instance"⟩

/-- The columns of a ticket, under names that are the same for both tables. -/
def TicketTable.columns (t : TicketTable) : String :=
  s!"t.{t.id} AS id_ticket, t.id_message, t.{t.queue} AS id_queue, t.{t.owner} AS id_owner, " ++
    "t.last_access_utc, t.state, t.snapshot, t.retry_count, t.delayed_to_utc, t.concurrency_token"

def messageColumns : String :=
  "m.id_message, m.id_message_type, m.id_publisher_instance, m.id_previous_message, " ++
    "m.created_utc, m.valid_to_utc, m.is_recovery, m.data"

def messageOfRow (row : SqlRow) : Except StoreError Message :=
  let read := cell row fun reason => s!"failed to read message row: {reason}"
  return {
    id := ⟨← read Uuid "id_message"⟩
    messageType := ⟨← read Int32 "id_message_type"⟩
    publisherInstance := ⟨← read Uuid "id_publisher_instance"⟩
    previousMessage := (← read (Option Uuid) "id_previous_message").map Key.mk
    created := ← read Instant "created_utc"
    validTo := ← read (Option Instant) "valid_to_utc"
    isRecovery := ← read Bool "is_recovery"
    data := ← read Bytes "data" }

/-- A failure count must not be negative. -/
def retryCountOfColumn (n : Int32) : Except StoreError UInt32 :=
  if n < 0 then .error (.serialization s!"negative retry count {n.toInt}")
  else .ok n.toInt.toNat.toUInt32

def stateOfColumn (code : Int16) : Except StoreError TicketState :=
  (TicketState.ofCode code.toInt).mapError .domain

/-- The ticket of a row that was selected with `TicketTable.columns`. -/
def ticketOfRow (kind : TicketKind) (row : SqlRow) : Except StoreError Ticket := do
  let read := cell row fun reason => s!"failed to read ticket row: {reason}"
  let queue ← match kind with
    | .subscriber => do pure (QueueRef.subscriber ⟨← read Uuid "id_queue"⟩)
    | .tempQueue => do pure (QueueRef.job ⟨← read Int32 "id_queue"⟩)
  let state ← read Int16 "state"
  let retryCount ← read Int32 "retry_count"
  return {
    id := ⟨← read Uuid "id_ticket"⟩
    queue
    message := ⟨← read Uuid "id_message"⟩
    owner := ← read (Option Uuid) "id_owner"
    lastAccess := ← read (Option Instant) "last_access_utc"
    state := ← stateOfColumn state
    snapshot := ← read (Option Bytes) "snapshot"
    retryCount := ← retryCountOfColumn retryCount
    delayedTo := ← read (Option Instant) "delayed_to_utc"
    token := ⟨← read Uuid "concurrency_token"⟩ }

def loadMessage (id : MessageId) : Session (Option Message) := do
  readRow? messageOfRow (← Session.row? "load_message"
    s!"SELECT {messageColumns} FROM bus.message m WHERE m.id_message = $1" [.uuid id.uuid])

def insertMessage (m : Message) : Session Unit :=
  Session.executeOne "insert_message"
    ("INSERT INTO bus.message ( id_message, id_message_type, id_publisher_instance, " ++
      "id_previous_message, created_utc, valid_to_utc, is_recovery, data ) " ++
      "VALUES ($1, $2, $3, $4, $5, $6, $7, $8)")
    [.uuid m.id.uuid, .int4 m.messageType.value, .uuid m.publisherInstance.uuid,
      .optional (fun id => .uuid id.uuid) m.previousMessage, .time m.created,
      .optional .time m.validTo, .bool m.isRecovery, .bytes m.data]

def insertTicket (t : Ticket) : Session Unit :=
  let table := TicketTable.ofKind t.kind
  Session.executeOne "insert_ticket"
    (s!"INSERT INTO {table.table} ({table.id}, id_message, {table.queue}, state, retry_count, " ++
      "concurrency_token) VALUES ($1, $2, $3, $4, 0, $5)")
    [.uuid t.id.uuid, .uuid t.message.uuid, queueParam t.queue, .code TicketState.ready.code,
      .uuid t.token.uuid]

/-- Inserts a message and its tickets in one transaction. -/
def publish (fresh : Store.Fresh) (m : Message) (targets : List QueueRef) :
    Session PublishReceipt := do
  ExceptT.mk (pure (validateTargets targets))
  let tickets := Store.freshTickets fresh m.id targets
  Session.transaction .abandon do
    insertMessage m
    tickets.forM insertTicket
    return ⟨m.id, tickets.map fun t => (t.queue, t.id)⟩

/-- The ticket at the head of a queue, if it may be claimed. -/
def findNextFifo (queue : QueueRef) (eligible : List TicketState) (timeout : Duration)
    (now : Instant) : Session (Option Ticket) := do
  let table := TicketTable.ofKind queue.kind
  let head ← readRow? (ticketOfRow queue.kind) (← Session.row? "find_next_fifo"
    (s!"SELECT {table.columns} FROM {table.table} t " ++
      s!"JOIN bus.message m ON m.id_message = t.id_message WHERE t.{table.queue} = $1 " ++
      "AND t.state NOT IN ($2, $3) AND (m.valid_to_utc IS NULL OR m.valid_to_utc > $4) " ++
      s!"ORDER BY m.created_utc, t.{table.id} LIMIT 1")
    [queueParam queue, .code TicketState.completed.code, .code TicketState.suspended.code,
      .time now])
  return head.filter fun t => t.isClaimable eligible timeout now

/-- The first ticket of a queue that may be claimed; the statement holds the condition. -/
def findNextNonFifo (queue : QueueRef) (eligible : List TicketState) (timeout : Duration)
    (now : Instant) : Session (Option Ticket) := do
  let table := TicketTable.ofKind queue.kind
  readRow? (ticketOfRow queue.kind) (← Session.row? "find_next_non_fifo"
    (s!"SELECT {table.columns} FROM {table.table} t " ++
      s!"JOIN bus.message m ON m.id_message = t.id_message WHERE t.{table.queue} = $1 " ++
      "AND (m.valid_to_utc IS NULL OR m.valid_to_utc > $2) " ++
      "AND ( (t.state = ANY($3) AND t.state <> $4 " ++
      "AND (t.delayed_to_utc IS NULL OR t.delayed_to_utc < $2)) OR (t.state = $4 " ++
      "AND (t.last_access_utc IS NULL OR t.last_access_utc < $5)) ) " ++
      s!"ORDER BY m.created_utc, t.{table.id} LIMIT 1")
    [queueParam queue, .time now, .int2List (eligible.map fun s => .ofInt s.code),
      .code TicketState.inProgress.code, .time (reclaimCutoff now timeout)])

/-- Claims the ticket in one statement, which gives its row if the claim goes through. -/
def claimTicket (token : ConcurrencyToken) (candidate : Ticket) (consumer : Consumer)
    (timeout : Duration) (now : Instant) : Session (List SqlRow) :=
  let table := TicketTable.ofKind candidate.kind
  Session.rows "claim_ticket"
    (s!"UPDATE {table.table} t SET {table.owner} = $2, state = $3, last_access_utc = $4, " ++
      s!"delayed_to_utc = NULL, concurrency_token = $5 WHERE t.{table.id} = $1 " ++
      s!"AND (t.{table.owner} IS NULL OR t.concurrency_token = $6) AND t.state NOT IN ($7, $8) " ++
      "AND (t.state <> $3 OR t.last_access_utc IS NULL OR t.last_access_utc < $9) " ++
      s!"RETURNING {table.columns}")
    [.uuid candidate.id.uuid, .uuid consumer.instanceUuid, .code TicketState.inProgress.code,
      .time now, .uuid token.uuid, .uuid candidate.token.uuid, .code TicketState.completed.code,
      .code TicketState.suspended.code, .time (reclaimCutoff now timeout)]

def tryClaim (fresh : Store.Fresh) (candidate : Ticket) (consumer : Consumer)
    (timeout : Duration) (now : Instant) : Session ClaimOutcome := do
  if candidate.queue ≠ consumer.queue then throw (wrongQueue candidate consumer)
  match ← claimTicket (fresh.token 0) candidate consumer timeout now with
  | [] => return .lost candidate.id
  | [row] =>
    let ticket ← readRow (ticketOfRow candidate.kind) row
    match ← loadMessage ticket.message with
    | some message => return .claimed ⟨ticket, message⟩
    | none => throw (.notFound "message" (toString ticket.message))
  | rows => throw (.integrity "claim_ticket" 1 rows.length)

/-- What a conditional write of one ticket came to, from the number of rows that it touched. -/
def writeOutcome (operation : String) (token : ConcurrencyToken) :
    Nat → Except StoreError CommitOutcome
  | 0 => .ok .lost
  | 1 => .ok (.committed token)
  | n => .error (.integrity operation 1 n)

def commit (fresh : Store.Fresh) (consumer : Consumer) (ticket : TicketId)
    (token : ConcurrencyToken) (update : TicketUpdate) (now : Instant) :
    Session CommitOutcome := do
  ExceptT.mk (pure ((TicketState.ensureMove .inProgress update.state).mapError .domain))
  let table := TicketTable.ofKind consumer.queue.kind
  let next := fresh.token 0
  let reply ← Session.execute "commit_ticket"
    (s!"UPDATE {table.table} SET state = $4, retry_count = $5, delayed_to_utc = $6, " ++
      "snapshot = COALESCE($7, snapshot), last_access_utc = $8, concurrency_token = $9 " ++
      s!"WHERE {table.id} = $1 AND concurrency_token = $2 AND {table.owner} = $3 " ++
      s!"AND {table.queue} = $10")
    [.uuid ticket.uuid, .uuid token.uuid, .uuid consumer.instanceUuid, .code update.state.code,
      .int4 (countColumn update.retryCount), .optional .time update.delayedTo,
      .optional .bytes update.snapshot, .time now, .uuid next.uuid, queueParam consumer.queue]
  ExceptT.mk (pure (writeOutcome "commit_ticket" next reply.affected))

def heartbeat (consumer : Consumer) (ticket : TicketId) (token : ConcurrencyToken)
    (now : Instant) : Session CommitOutcome := do
  let table := TicketTable.ofKind consumer.queue.kind
  let reply ← Session.execute "heartbeat"
    (s!"UPDATE {table.table} SET last_access_utc = $4 WHERE {table.id} = $1 " ++
      s!"AND concurrency_token = $2 AND {table.owner} = $3 AND state = $5")
    [.uuid ticket.uuid, .uuid token.uuid, .uuid consumer.instanceUuid, .time now,
      .code TicketState.inProgress.code]
  ExceptT.mk (pure (writeOutcome "heartbeat" token reply.affected))

def loadTicket (kind : TicketKind) (ticket : TicketId) : Session (Option Ticket) := do
  let table := TicketTable.ofKind kind
  readRow? (ticketOfRow kind) (← Session.row? "load_ticket"
    s!"SELECT {table.columns} FROM {table.table} t WHERE t.{table.id} = $1"
    [.uuid ticket.uuid])

def ticketsOfKind (kind : TicketKind) (message : MessageId) : Session (List Ticket) := do
  let table := TicketTable.ofKind kind
  let rows ← Session.rows "tickets_for_message"
    s!"SELECT {table.columns} FROM {table.table} t WHERE t.id_message = $1 ORDER BY t.{table.id}"
    [.uuid message.uuid]
  ExceptT.mk (pure (rows.mapM (ticketOfRow kind)))

def ticketsForMessage (message : MessageId) : Session (List Ticket) := do
  let subscribers ← ticketsOfKind .subscriber message
  return subscribers ++ (← ticketsOfKind .tempQueue message)

/-- The state of a row of counts, and the count. -/
def countOfRow (row : SqlRow) : Except StoreError (TicketState × Nat) := do
  let fault := SqlError.toStoreError "count_by_state"
  let state ← (row.get Int16 "state").mapError fault
  let count ← (row.get Int64 "tickets").mapError fault
  return (← stateOfColumn state, count.toInt.toNat)

/-- Counts by state; of several counts for a state the last one counts. -/
def countByState (queue : QueueRef) : Session (List (TicketState × Nat)) := do
  let table := TicketTable.ofKind queue.kind
  let rows ← Session.rows "count_by_state"
    (s!"SELECT state, COUNT(*) AS tickets FROM {table.table} WHERE {table.queue} = $1 " ++
      "GROUP BY state")
    [queueParam queue]
  let counts ← ExceptT.mk (pure (rows.mapM countOfRow))
  return TicketState.all.filterMap fun state =>
    (counts.reverse.lookup state).map fun n => (state, n)

end MessageBus.Database
