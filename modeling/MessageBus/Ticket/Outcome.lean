import MessageBus.Text.Utf8
import MessageBus.Ticket.Policy
import MessageBus.Ticket.State
import MessageBus.Time.Instant

/-! From what a consumer reports about a delivery to what is written to its ticket. -/
namespace MessageBus

inductive DeliveryOutcome where
  | completed
  /-- Counts as a retry. -/
  | failed (reason : String)
  /-- To be delivered again later, without counting a retry. -/
  | deferred (due : Instant)
  /-- Not to be delivered again. -/
  | rejected (reason : String)
  deriving DecidableEq

/-- The reason of a failure or rejection. -/
def DeliveryOutcome.reason? : DeliveryOutcome → Option String
  | failed reason | rejected reason => some reason
  | completed | deferred _ => none

/-- What a commit writes to a ticket. Without a snapshot the stored one stays. -/
structure TicketUpdate where
  state : TicketState
  retryCount : UInt32
  delayedTo : Option Instant
  snapshot : Option Bytes
  deriving DecidableEq

namespace TicketUpdate

/-- One failure more, unless the count is full. -/
def countFailure (retries : UInt32) : UInt32 :=
  if retries = 0xFFFFFFFF then retries else retries + 1

/-- The instant at which a delay is over; there is none for no delay, nor past the range of time. -/
def delayedUntil (now : Instant) (delay : Duration) : Option Instant :=
  if delay.isZero then none else now.later? delay

def ofOutcome (policy : DeliveryPolicy) (backoff : BackoffPolicy) (retryCount : UInt32)
    (outcome : DeliveryOutcome) (now : Instant) : TicketUpdate :=
  match outcome with
  | .completed => ⟨.completed, retryCount, none, none⟩
  | .failed _ =>
    let failures := countFailure retryCount
    if policy.retriesExhausted failures then ⟨.suspended, failures, none, none⟩
    else ⟨.failed, failures, delayedUntil now (backoff.delayBefore failures), none⟩
  | .deferred due => ⟨.delayed, retryCount, some due, none⟩
  | .rejected _ => ⟨.suspended, retryCount, none, none⟩

/-- An outcome leads along an edge from a ticket in progress. -/
theorem canMoveTo_ofOutcome (policy : DeliveryPolicy) (backoff : BackoffPolicy)
    (retryCount : UInt32) (outcome : DeliveryOutcome) (now : Instant) :
    TicketState.inProgress.canMoveTo (ofOutcome policy backoff retryCount outcome now).state
      = true := by
  cases outcome with
  | failed reason => simp only [ofOutcome]; split <;> rfl
  | completed => rfl
  | deferred due => rfl
  | rejected reason => rfl

end TicketUpdate
end MessageBus
