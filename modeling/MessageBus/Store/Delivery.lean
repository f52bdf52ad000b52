import MessageBus.Store.Basic

/-! Publishing, and the protocol of claims and commits. A claim gives a ticket to one instance under
a new token; what is written under a token that has changed since is lost. -/
namespace MessageBus

/-- The first queue that comes a second time. -/
def firstRepeated? : List QueueRef → List QueueRef → Option QueueRef
  | _, [] => none
  | seen, queue :: rest => if queue ∈ seen then some queue else firstRepeated? (queue :: seen) rest

/-- A message goes to at least one queue, and to each one once. -/
def validateTargets (targets : List QueueRef) : Except StoreError Unit :=
  if targets.isEmpty then .error (.validation "publish requires at least one target queue")
  else match firstRepeated? [] targets with
    | some queue => .error (.validation s!"duplicate publish target {queue}")
    | none => .ok ()

/-- The error of a claim by a consumer of another queue. -/
def wrongQueue (candidate : Ticket) (consumer : Consumer) : StoreError :=
  .validation s!"ticket {candidate.id} belongs to {candidate.queue}, not to {consumer.queue}"

namespace Store

/-- One new ticket for each target. -/
def freshTickets (fresh : Fresh) (message : MessageId) (targets : List QueueRef) : List Ticket :=
  targets.zipIdx.map fun (queue, i) => .fresh (fresh.ticket i) (fresh.token i) queue message

def publish (s : Store) (fresh : Fresh) (message : Message) (targets : List QueueRef) :
    Result PublishReceipt :=
  s.attempt do
    validateTargets targets
    if s.messages.contains message.id then
      throw (.integrity "insert_message" 1 0)
    let _ ← require s.messageTypes "message type" message.messageType
    let _ ← require s.publisherInstances "publisher instance" message.publisherInstance
    if let some queue := targets.find? fun queue => !s.hasQueue queue then
      throw (.notFound "queue" (toString queue))
    let tickets := freshTickets fresh message.id targets
    return (⟨message.id, tickets.map fun t => (t.queue, t.id)⟩, { s with
      messages := s.messages.insert message.id message
      tickets := tickets.foldl (fun table t => table.insert t.id t) s.tickets })

/-- By the time of the message, and by identifier where that is the same. -/
def claimsBefore (a b : Delivery) : Bool :=
  a.message.created < b.message.created ||
    (a.message.created == b.message.created && a.ticket.id.uuid ≤ b.ticket.id.uuid)

/-- The tickets of a queue that are not done and whose message has not expired, in the order in
which they are to be claimed. -/
def liveTickets (s : Store) (queue : QueueRef) (now : Instant) : List Delivery :=
  let tickets := s.tickets.values.filter fun t => t.queue == queue && !t.state.isTerminal
  let deliveries := tickets.filterMap fun t => (s.messages.get? t.message).map (Delivery.mk t)
  (deliveries.filter fun d => !d.message.isExpired now).mergeSort claimsBefore

/-- The ticket at the head of a queue, if it may be claimed. -/
def findNextFifo (s : Store) (queue : QueueRef) (eligible : List TicketState)
    (timeout : Duration) (now : Instant) : Option Ticket :=
  ((s.liveTickets queue now).head?.map Delivery.ticket).filter fun t =>
    t.isClaimable eligible timeout now

/-- The first ticket of a queue that may be claimed. -/
def findNextNonFifo (s : Store) (queue : QueueRef) (eligible : List TicketState)
    (timeout : Duration) (now : Instant) : Option Ticket :=
  ((s.liveTickets queue now).map Delivery.ticket).find? fun t =>
    t.isClaimable eligible timeout now

/-- A conditional claim of a ticket as the caller saw it. -/
def tryClaim (s : Store) (fresh : Fresh) (candidate : Ticket) (consumer : Consumer)
    (timeout : Duration) (now : Instant) : Result ClaimOutcome :=
  if candidate.queue ≠ consumer.queue then (.error (wrongQueue candidate consumer), s)
  else match s.tickets.get? candidate.id with
    | none => (.ok (.lost candidate.id), s)
    | some row =>
      if row.acceptsClaim candidate.token timeout now then
        let claimed := row.claimedBy consumer.instanceUuid (fresh.token 0) now
        let answer := (require s.messages "message" claimed.message).map fun message =>
          ClaimOutcome.claimed ⟨claimed, message⟩
        (answer, { s with tickets := s.tickets.insert candidate.id claimed })
      else (.ok (.lost candidate.id), s)

/-- The ticket, if the consumer holds it under the token. -/
def heldTicket? (s : Store) (consumer : Consumer) (ticket : TicketId) (token : ConcurrencyToken) :
    Option Ticket :=
  (s.tickets.get? ticket).filter fun row => row.isHeldBy consumer token

/-- Writes the result of a delivery, under the token of its claim. -/
def commit (s : Store) (fresh : Fresh) (consumer : Consumer) (ticket : TicketId)
    (token : ConcurrencyToken) (update : TicketUpdate) (now : Instant) : Result CommitOutcome :=
  match TicketState.ensureMove .inProgress update.state with
  | .error e => (.error (.domain e), s)
  | .ok () =>
    match s.heldTicket? consumer ticket token with
    | none => (.ok .lost, s)
    | some row =>
      let next := fresh.token 0
      (.ok (.committed next),
        { s with tickets := s.tickets.insert ticket (row.updated update next now) })

/-- Shows that a claim is still being worked on. The token stays. -/
def heartbeat (s : Store) (consumer : Consumer) (ticket : TicketId) (token : ConcurrencyToken)
    (now : Instant) : Result CommitOutcome :=
  match (s.heldTicket? consumer ticket token).filter fun row => row.state == .inProgress with
  | none => (.ok .lost, s)
  | some row =>
    (.ok (.committed token),
      { s with tickets := s.tickets.insert ticket { row with lastAccess := some now } })

def loadTicket? (s : Store) (kind : TicketKind) (ticket : TicketId) : Option Ticket :=
  (s.tickets.get? ticket).filter fun row => row.kind == kind

/-- Tickets of subscribers come first; within a kind they are sorted by identifier. -/
def listsBefore (a b : Ticket) : Bool :=
  match a.kind, b.kind with
  | .subscriber, .tempQueue => true
  | .tempQueue, .subscriber => false
  | _, _ => a.id.uuid ≤ b.id.uuid

def ticketsForMessage (s : Store) (message : MessageId) : List Ticket :=
  (s.tickets.values.filter fun t => t.message == message).mergeSort listsBefore

/-- How many tickets of a queue are in each state that occurs. -/
def countByState (s : Store) (queue : QueueRef) : List (TicketState × Nat) :=
  let tickets := s.tickets.values.filter fun t => t.queue == queue
  TicketState.all.filterMap fun state =>
    match tickets.countP fun t => t.state == state with
    | 0 => none
    | n => some (state, n)

end Store
end MessageBus
