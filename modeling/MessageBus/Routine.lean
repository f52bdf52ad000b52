import MessageBus.Cache
import MessageBus.Payload.Registry
import MessageBus.Program
import MessageBus.Store.Call

/-! Routines of a bus. A publisher or a consumer is a program that asks for answers of the store,
for the time, for new identifiers, for rows of the cache, and for the work of handlers. -/
namespace MessageBus

/-- How a handler broke off. -/
inductive HandlerPanic where
  | text (reason : String)
  /-- Without a text. -/
  | other
  deriving DecidableEq, Repr

def HandlerPanic.message : HandlerPanic → String
  | text reason => reason
  | other => "non-string panic payload"

/-- The signs of life that are given for a claim while its handler runs, one after each interval. -/
structure Pulse where
  consumer : Consumer
  ticket : TicketId
  token : ConcurrencyToken
  interval : Duration
  deriving DecidableEq

/-- What one poll of a consumer did. -/
inductive PollOutcome where
  /-- A ticket was claimed and handled. The state is the one that the result asked for; it was not
  committed when the claim was lost meanwhile. -/
  | processed (ticket : TicketId) (state : TicketState) (committed : Bool)
  | empty
  | lost (ticket : TicketId)
  deriving DecidableEq

/-- What a routine asks of its surroundings. Handlers have the type `η`. -/
inductive Request (η : Type) where
  | store (call : Store.Call)
  /-- A call that is given up when the routine is cancelled while the call waits. -/
  | attempt (call : Store.Call)
  | now
  /-- The correlation identifiers of the scopes around the routine. -/
  | correlationScopes
  | freshMessage
  | freshLog
  | cachedByName (name : String)
  | cachedById (id : MessageTypeId)
  | remember (row : MessageType)
  | isCancelled
  /-- Has signs of life given from now on. The answer is a number for them. -/
  | startPulse (pulse : Pulse)
  /-- Ends the signs of life of a number, and waits for the one that is just given. -/
  | stopPulse (id : Nat)
  /-- Runs a handler. -/
  | handle (handler : η) (envelope : Envelope)
  /-- Counts a poll. -/
  | tally (outcome : PollOutcome)
  /-- Waits, and says whether the routine was cancelled meanwhile. -/
  | pause (span : Duration)

abbrev Request.Answer {η : Type} : Request η → Type
  | store call => Except StoreError call.Answer
  | attempt call => Except StoreError call.Answer
  | now => Instant
  | correlationScopes => List String
  | freshMessage => MessageId
  | freshLog => LogId
  | cachedByName _ => Option MessageType
  | cachedById _ => Option MessageType
  | remember _ => Unit
  | isCancelled => Bool
  | startPulse _ => Nat
  | stopPulse _ => Unit
  | handle .. => Except HandlerPanic HandlerResult
  | tally _ => Unit
  | pause _ => Bool

abbrev Routine (η : Type) := Program (Request η) Request.Answer

/-- A routine that may end with an error of the store. -/
abbrev StoreRoutine (η : Type) := ExceptT StoreError (Routine η)

namespace Routine
variable {η : Type}

def ask (r : Request η) : Routine η r.Answer := Program.request r

def call (c : Store.Call) : StoreRoutine η c.Answer := ExceptT.mk (ask (.store c))

def attempt (c : Store.Call) : StoreRoutine η c.Answer := ExceptT.mk (ask (.attempt c))

/-- Calls that are not made once the routine is cancelled. -/
def unlessCancelled {α : Type} (body : StoreRoutine η α) : StoreRoutine η α := do
  if ← ExceptT.lift (ask .isCancelled) then throw .cancelled else body

/-- The message type of a name, if there is one: from the cache, or else from `load`. -/
def findMessageType (name : String) (load : StoreRoutine η (Option MessageType)) :
    StoreRoutine η (Option MessageType) := do
  if let some row ← ExceptT.lift (ask (.cachedByName name)) then return some row
  let found ← load
  if let some row := found then ExceptT.lift (ask (.remember row))
  return found

/-- The message type of a name, from the cache or else from the store. -/
def messageTypeByName (name : String) : StoreRoutine η MessageType := do
  match ← findMessageType name (call (.messageTypeByName name)) with
  | some row => return row
  | none => throw (.notFound "message type" name)

/-- The message type of a number, from the cache or else from the store. -/
def messageTypeById (id : MessageTypeId) : StoreRoutine η MessageType := do
  if let some row ← ExceptT.lift (ask (.cachedById id)) then return row
  match ← call (.messageTypeById id) with
  | none => throw (.notFound "message type" (toString id))
  | some row =>
    ExceptT.lift (ask (.remember row))
    return row

/-- Selects the next ticket of a queue and tries to claim it. -/
def claimNext (consumer : Consumer) (policy : DeliveryPolicy) (eligible : List TicketState)
    (now : Instant) : StoreRoutine η ClaimOutcome := do
  let queue := consumer.queue
  let timeout := policy.processingTimeout
  let candidate? ←
    if policy.fifo then attempt (.findNextFifo queue eligible timeout now)
    else attempt (.findNextNonFifo queue eligible timeout now)
  match candidate? with
  | some candidate => attempt (.tryClaim candidate consumer timeout now)
  | none => return .empty

/-- One sign of life. Says whether more are to follow: not once the claim is lost. -/
def beat (p : Pulse) : Routine η Bool := do
  let now ← ask .now
  match ← ask (.store (.heartbeat p.consumer p.ticket p.token now)) with
  | .ok .lost => return false
  | .ok (.committed _) | .error _ => return true

/-- Signs of life until the claim is lost or the routine is cancelled, at most `limit` of them. -/
def beats (p : Pulse) : (limit : Nat) → Routine η Unit
  | 0 => return ()
  | limit + 1 => do
    if ← ask (.pause p.interval) then return ()
    if ← beat p then beats p limit

end Routine
end MessageBus
