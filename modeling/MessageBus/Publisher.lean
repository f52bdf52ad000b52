import MessageBus.Routine

/-! Publishing of payloads, by an instance of a publisher of one scenario. -/
namespace MessageBus

/-- What may be said of a message beyond its payload. -/
structure Publication where
  /-- A new identifier is made when none is given. -/
  id : Option MessageId
  previousMessage : Option MessageId
  validTo : Option Instant
  isRecovery : Bool
  deriving DecidableEq

def Publication.plain : Publication := ⟨none, none, none, false⟩

structure Publisher.Identity where
  scenario : ScenarioId
  runner : PublisherInstanceId
  serializer : Serializer

namespace Publisher.Identity
variable {η : Type} (self : Publisher.Identity)

/-- The message of a payload. Its type must be registered. -/
def message (payload : Payload) (publication : Publication) : StoreRoutine η Message := do
  let messageType ← Routine.messageTypeByName payload.type.messageType
  match self.serializer.encode payload with
  | .error e => throw (.serialization e.message)
  | .ok data =>
    let id ← match publication.id with
      | some id => pure id
      | none => ExceptT.lift (Routine.ask .freshMessage)
    let now ← ExceptT.lift (Routine.ask .now)
    return {
      id
      messageType := messageType.id
      publisherInstance := self.runner
      previousMessage := publication.previousMessage
      created := now
      validTo := publication.validTo
      isRecovery := publication.isRecovery
      data }

/-- Publishes to every queue of the scenario that takes the type. -/
def publish (payload : Payload) (publication : Publication) : StoreRoutine η PublishReceipt := do
  let message ← self.message payload publication
  let targets ← Routine.call (.resolveTargets self.scenario message.messageType)
  Routine.call (.publish message targets)

/-- Publishes to the given queues. -/
def publishTo (payload : Payload) (targets : List QueueRef) : StoreRoutine η PublishReceipt := do
  let message ← self.message payload .plain
  Routine.call (.publish message targets)

end Publisher.Identity
end MessageBus
