import MessageBus.Queue
import MessageBus.Ticket.Outcome

/-! Messages and their delivery tickets. A message is fanned out to queues as one ticket each; a
ticket carries the progress of its delivery and the claim of the instance that works on it. -/
namespace MessageBus

/-- A published message, which never changes. -/
structure Message where
  id : MessageId
  messageType : MessageTypeId
  publisherInstance : PublisherInstanceId
  previousMessage : Option MessageId
  created : Instant
  /-- From this instant on the message is no longer delivered. -/
  validTo : Option Instant
  isRecovery : Bool
  data : Bytes
  deriving DecidableEq

def Message.isExpired (m : Message) (now : Instant) : Bool :=
  m.validTo.any fun validTo => validTo ≤ now

structure Ticket where
  id : TicketId
  queue : QueueRef
  message : MessageId
  /-- The instance of the last claim. -/
  owner : Option Uuid
  lastAccess : Option Instant
  state : TicketState
  snapshot : Option Bytes
  /-- The failures so far. -/
  retryCount : UInt32
  delayedTo : Option Instant
  token : ConcurrencyToken
  deriving DecidableEq

/-- Claims whose last heartbeat lies before this instant have been given up. -/
def reclaimCutoff (now : Instant) (timeout : Duration) : Instant :=
  (now.earlier? timeout).getD .first

namespace Ticket

/-- A ticket that was never claimed. -/
def fresh (id : TicketId) (token : ConcurrencyToken) (queue : QueueRef) (message : MessageId) :
    Ticket where
  id := id
  queue := queue
  message := message
  owner := none
  lastAccess := none
  state := .ready
  snapshot := none
  retryCount := 0
  delayedTo := none
  token := token

def kind (t : Ticket) : TicketKind := t.queue.kind

/-- A claim in progress whose heartbeats have stopped. -/
def isStale (t : Ticket) (timeout : Duration) (now : Instant) : Bool :=
  t.state == .inProgress && t.lastAccess.all fun access => access < reclaimCutoff now timeout

/-- Whether a poll may hand the ticket out: either its state is asked for and any delay is strictly
past, or it is a claim that has been given up. -/
def isClaimable (t : Ticket) (eligible : List TicketState) (timeout : Duration) (now : Instant) :
    Bool :=
  if t.state = .inProgress then t.isStale timeout now
  else eligible.contains t.state && t.delayedTo.all fun due => due < now

/-- Whether a claim goes through for a caller that saw the ticket under the token `observed`. An
unowned ticket is open to any token; a live claim is not given away even under its own token, since
heartbeats do not change it. -/
def acceptsClaim (t : Ticket) (observed : ConcurrencyToken) (timeout : Duration) (now : Instant) :
    Bool :=
  !t.state.isTerminal && (t.owner.isNone || t.token == observed) &&
    (t.state != .inProgress || t.isStale timeout now)

/-- The ticket under a new claim. -/
def claimedBy (t : Ticket) (instanceUuid : Uuid) (token : ConcurrencyToken) (now : Instant) :
    Ticket :=
  { t with
    owner := some instanceUuid
    state := .inProgress
    lastAccess := some now
    delayedTo := none
    token := token }

/-- The ticket with a result written to it. -/
def updated (t : Ticket) (update : TicketUpdate) (token : ConcurrencyToken) (now : Instant) :
    Ticket :=
  { t with
    state := update.state
    retryCount := update.retryCount
    delayedTo := update.delayedTo
    snapshot := update.snapshot.or t.snapshot
    lastAccess := some now
    token := token }

/-- Whether `consumer` holds the ticket under `token`. -/
def isHeldBy (t : Ticket) (consumer : Consumer) (token : ConcurrencyToken) : Bool :=
  t.queue == consumer.queue && t.token == token && t.owner == some consumer.instanceUuid

end Ticket

/-- A ticket just claimed, with its message. -/
structure Delivery where
  ticket : Ticket
  message : Message
  deriving DecidableEq

inductive ClaimOutcome where
  | claimed (delivery : Delivery)
  /-- No ticket is to be had now. -/
  | empty
  /-- Someone else was faster. -/
  | lost (ticket : TicketId)
  deriving DecidableEq

inductive CommitOutcome where
  /-- The write went through; `token` is the ticket's token from now on. -/
  | committed (token : ConcurrencyToken)
  /-- The claim is no longer the caller's. -/
  | lost
  deriving DecidableEq

def CommitOutcome.isCommitted : CommitOutcome → Bool
  | committed _ => true
  | lost => false

structure PublishReceipt where
  message : MessageId
  tickets : List (QueueRef × TicketId)
  deriving DecidableEq

end MessageBus
