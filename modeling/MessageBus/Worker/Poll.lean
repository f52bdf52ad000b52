import MessageBus.Audit
import MessageBus.Worker.Config
import MessageBus.Worker.Stats

/-! One poll of a consumer: it claims at most one ticket, has its message handled and commits the
result. -/
namespace MessageBus

structure Worker (η : Type) where
  registry : Registry η
  consumer : Consumer
  policy : DeliveryPolicy
  config : WorkerConfig
  /-- Where the records of the worker get their correlation identifiers. -/
  correlation : Correlation

namespace Worker
variable {η : Type} (w : Worker η)

/-- Has a delivery handled. A delivery that reaches no handler, and a handler that breaks off, count
as failures. -/
def dispatch (raw : RawDelivery) : Routine η HandlerResult :=
  match w.registry.route raw with
  | .error e => return .failed e.message
  | .ok (handler, envelope) => do
    match ← Routine.ask (.handle handler envelope) with
    | .ok result => return result
    | .error panic => return .failed s!"handler panicked: {panic.message}"

/-- What is written to a ticket after its handler has given `result`. -/
def update (ticket : Ticket) (result : HandlerResult) (now : Instant) : TicketUpdate :=
  { TicketUpdate.ofOutcome w.policy w.config.backoff ticket.retryCount result.outcome now with
    snapshot := result.snapshot }

/-- The level of the record about a failure. -/
def failureLevel (state : TicketState) : LogLevel :=
  if state = .suspended then .error else .warning

/-- Has a claimed ticket handled, with signs of life meanwhile, and commits the result. -/
def process (d : Delivery) : StoreRoutine η PollOutcome := do
  let messageType ← Routine.messageTypeById d.message.messageType
  let pulse ← ExceptT.lift (Routine.ask (.startPulse
    ⟨w.consumer, d.ticket.id, d.ticket.token, w.config.heartbeatInterval⟩))
  let result ← ExceptT.lift (w.dispatch (.ofClaim d messageType.name))
  ExceptT.lift (Routine.ask (.stopPulse pulse))
  let update := w.update d.ticket result (← ExceptT.lift (Routine.ask .now))
  let now ← ExceptT.lift (Routine.ask .now)
  let committed ← Routine.call (.commit w.consumer d.ticket.id d.ticket.token update now)
  if let some reason := result.outcome.reason? then
    let _ ← ExceptT.lift (Audit.messageEvent w.correlation w.consumer.ref d.message.id
      (failureLevel update.state) reason)
  return .processed d.ticket.id update.state committed.isCommitted

/-- One poll. The claim is given up when the worker is cancelled; what follows it is not. -/
def runOnce : StoreRoutine η PollOutcome := do
  let now ← ExceptT.lift (Routine.ask .now)
  Routine.unlessCancelled (Routine.attempt (.touchInstance w.consumer.ref now))
  let claim ← Routine.unlessCancelled
    (Routine.claimNext w.consumer w.policy w.config.eligible now)
  let outcome ← match claim with
    | .empty => pure .empty
    | .lost ticket => pure (.lost ticket)
    | .claimed delivery => w.process delivery
  ExceptT.lift (Routine.ask (.tally outcome))
  return outcome

end Worker
end MessageBus
