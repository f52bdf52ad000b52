import MessageBus.Config
import MessageBus.Ticket.Policy
import MessageBus.Ticket.State

/-! The configuration of a consumer. -/
namespace MessageBus

structure WorkerConfig where
  name : String
  /-- The sleep after a poll that found nothing. -/
  pollInterval : Duration
  /-- The time between two signs of life of a running handler. -/
  heartbeatInterval : Duration
  /-- The sleep after a poll that failed. -/
  errorBackoff : Duration
  /-- The states that a poll may take up, besides claims that have been given up. -/
  eligible : List TicketState
  backoff : BackoffPolicy
  deriving DecidableEq

namespace WorkerConfig

def default : WorkerConfig where
  name := "consumer"
  pollInterval := .ofMillis 500
  heartbeatInterval := .ofSecs 5
  errorBackoff := .ofSecs 5
  eligible := TicketState.defaultEligible
  backoff := .default

/-- The intervals of the process, and the rest as by default. -/
def ofBus (bus : BusConfig) : WorkerConfig :=
  { default with
    pollInterval := bus.pollInterval
    heartbeatInterval := bus.heartbeatInterval }

end WorkerConfig
end MessageBus
