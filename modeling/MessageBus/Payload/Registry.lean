import MessageBus.Payload.Serializer
import MessageBus.Ticket

/-! Which handler takes which deliveries. A handler is registered for one kind of payload, and at
most one for each message type. -/
namespace MessageBus

/-- A delivery whose payload is not decoded yet. -/
structure RawDelivery where
  ticket : TicketId
  message : MessageId
  messageType : String
  previousMessage : Option MessageId
  created : Instant
  isRecovery : Bool
  data : Bytes
  retryCount : UInt32
  snapshot : Option Bytes

def RawDelivery.ofClaim (d : Delivery) (messageType : String) : RawDelivery where
  ticket := d.ticket.id
  message := d.message.id
  messageType := messageType
  previousMessage := d.message.previousMessage
  created := d.message.created
  isRecovery := d.message.isRecovery
  data := d.message.data
  retryCount := d.ticket.retryCount
  snapshot := d.ticket.snapshot

/-- What a handler is given. -/
structure Envelope where
  ticket : TicketId
  message : MessageId
  previousMessage : Option MessageId
  created : Instant
  isRecovery : Bool
  retryCount : UInt32
  snapshot : Option Bytes
  payload : Payload

def Envelope.ofRaw (raw : RawDelivery) (payload : Payload) : Envelope where
  ticket := raw.ticket
  message := raw.message
  previousMessage := raw.previousMessage
  created := raw.created
  isRecovery := raw.isRecovery
  retryCount := raw.retryCount
  snapshot := raw.snapshot
  payload := payload

/-- What a handler gives back. The snapshot is its progress, kept for the next attempt. -/
structure HandlerResult where
  outcome : DeliveryOutcome
  snapshot : Option Bytes
  deriving DecidableEq

def HandlerResult.failed (reason : String) : HandlerResult := ⟨.failed reason, none⟩

/-- A second handler for a message type. -/
structure DuplicateHandler where
  messageType : String
  deriving DecidableEq, Repr

def DuplicateHandler.message (e : DuplicateHandler) : String :=
  s!"a handler is already registered for message type '{e.messageType}'"

/-- Why a delivery reaches no handler. -/
inductive DispatchError where
  | unknownType (messageType : String)
  | decode (cause : SerializerError)
  deriving DecidableEq, Repr

def DispatchError.message : DispatchError → String
  | unknownType messageType => s!"no handler registered for message type '{messageType}'"
  | decode cause => cause.message

/-- Handlers of type `η` with the payloads they take, in the order of registration. -/
structure Registry (η : Type) where
  serializer : Serializer
  handlers : List (PayloadType × η)

namespace Registry
variable {η : Type}

def empty (serializer : Serializer) : Registry η := ⟨serializer, []⟩

def find? (r : Registry η) (messageType : String) : Option (PayloadType × η) :=
  r.handlers.find? fun (type, _) => type.messageType == messageType

def handles (r : Registry η) (messageType : String) : Bool :=
  (r.find? messageType).isSome

def register (r : Registry η) (type : PayloadType) (handler : η) :
    Except DuplicateHandler (Registry η) :=
  if r.handles type.messageType then .error ⟨type.messageType⟩
  else .ok { r with handlers := r.handlers ++ [(type, handler)] }

/-- The message types that have a handler, sorted. -/
def messageTypes (r : Registry η) : List String :=
  (r.handlers.map fun (type, _) => type.messageType).mergeSort fun a b => decide (a ≤ b)

instance : Shown (Registry η) where
  shown r :=
    let types := ", ".intercalate (r.messageTypes.map shown)
    s!"HandlerRegistry \x7b serializer: {r.serializer.name}, message_types: [{types}] \x7d"

/-- The handler that takes a delivery, with what it is given. -/
def route (r : Registry η) (raw : RawDelivery) : Except DispatchError (η × Envelope) :=
  match r.find? raw.messageType with
  | none => .error (.unknownType raw.messageType)
  | some (type, handler) =>
    match r.serializer.decode type raw.data with
    | .error e => .error (.decode e)
    | .ok value => .ok (handler, .ofRaw raw ⟨type, value⟩)

end Registry
end MessageBus
