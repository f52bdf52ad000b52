import MessageBus.Json.RowForm
import MessageBus.Routine
import MessageBus.Text.Hex

/-! The outcomes of deliveries as data. Here octets are given in base sixteen, and queues by their
texts. -/
namespace MessageBus

def bytesReport (b : Bytes) : Json := .string (Text.hex b)

/-- Octets in base sixteen. -/
def bytesOfReport? : Json → Option Bytes
  | .string s => Text.ofHex? s
  | _ => none

@[simp] theorem bytesOfReport?_bytesReport (b : Bytes) :
    bytesOfReport? (bytesReport b) = some b := by
  simp [bytesOfReport?, bytesReport]

/-- The report of a value, or null. -/
def reportOr {α : Type} (report : α → Json) : Option α → Json
  | some a => report a
  | none => .null

instance : JsonForm DeliveryOutcome where
  toJson
    | .completed => .string "completed"
    | .failed reason => .ofMembers [("failed", .string reason)]
    | .rejected reason => .ofMembers [("rejected", .string reason)]
    | .deferred due => .ofMembers [("deferred", toJson due)]
  ofJson? j := do
    match ← j.choice? with
    | ("completed", none) => return .completed
    | ("failed", some reason) => return .failed (← ofJson? reason)
    | ("rejected", some reason) => return .rejected (← ofJson? reason)
    | ("deferred", some due) => return .deferred (← ofJson? due)
    | _ => none

/-- Without a count of failures an update sets it to zero. -/
instance : JsonForm TicketUpdate where
  toJson u := .ofMembers
    [("state", toJson u.state), ("retry_count", toJson u.retryCount),
      ("delayed_to_utc", toJson u.delayedTo), ("snapshot", reportOr bytesReport u.snapshot)]
  ofJson? j := do
    let [state, retryCount, delayedTo, snapshot] ←
      j.memberFields? ["state", "retry_count", "delayed_to_utc", "snapshot"] | none
    let count : Option UInt32 ← ofJson? retryCount
    let data ← match snapshot with
      | .null => some none
      | j => (bytesOfReport? j).map some
    return ⟨← ofJson? state, count.getD 0, ← ofJson? delayedTo, data⟩

def CommitOutcome.report : CommitOutcome → Json
  | lost => .string "lost"
  | committed token => .ofMembers [("committed", toJson token)]

def PublishReceipt.report (r : PublishReceipt) : Json :=
  let ticket := fun (queue, id) => Json.array [.string (toString (queue : QueueRef)), toJson id]
  .ofMembers [("message", toJson r.message), ("tickets", .array (r.tickets.map ticket))]

def Ticket.report (t : Ticket) : Json :=
  .ofMembers
    [("id", toJson t.id), ("queue", .string (toString t.queue)), ("message", toJson t.message),
      ("owner_instance", toJson t.owner), ("last_access_utc", toJson t.lastAccess),
      ("state", toJson t.state), ("snapshot", reportOr bytesReport t.snapshot),
      ("retry_count", toJson t.retryCount), ("delayed_to_utc", toJson t.delayedTo),
      ("token", toJson t.token)]

def Message.report (m : Message) : Json :=
  .ofMembers
    [("id", toJson m.id), ("message_type", toJson m.messageType),
      ("publisher_instance", toJson m.publisherInstance),
      ("previous_message", toJson m.previousMessage), ("created_utc", toJson m.created),
      ("valid_to_utc", toJson m.validTo), ("is_recovery", toJson m.isRecovery),
      ("data", bytesReport m.data)]

def Snapshot.report (s : Snapshot) : Json :=
  .ofMembers
    [("identifier", toJson s.identifier), ("owner", toJson s.owner), ("data", bytesReport s.data),
      ("created_utc", toJson s.created), ("updated_utc", toJson s.updated)]

def ClaimOutcome.report : ClaimOutcome → Json
  | empty => .string "empty"
  | lost ticket => .ofMembers [("lost", toJson ticket)]
  | claimed d => .ofMembers [("ticket", d.ticket.report), ("message", d.message.report)]

def PollOutcome.report : PollOutcome → Json
  | empty => .string "empty"
  | lost ticket => .ofMembers [("lost", toJson ticket)]
  | processed ticket state committed =>
    .ofMembers [("processed", .ofMembers
      [("ticket", toJson ticket), ("state", toJson state), ("committed", .bool committed)])]

def HandlerResult.report (r : HandlerResult) : Json :=
  .ofMembers [("outcome", toJson r.outcome), ("snapshot", reportOr bytesReport r.snapshot)]

/-- A payload that is not written is reported as null. -/
def Payload.report (p : Payload) : Json :=
  if p.refusal?.isSome then .null else p.type.shape.encode p.value

def Envelope.report (e : Envelope) : Json :=
  .ofMembers
    [("ticket", toJson e.ticket), ("message", toJson e.message),
      ("previous_message", toJson e.previousMessage), ("created_utc", toJson e.created),
      ("is_recovery", .bool e.isRecovery), ("retry_count", toJson e.retryCount),
      ("snapshot", reportOr bytesReport e.snapshot), ("payload", e.payload.report)]

end MessageBus
