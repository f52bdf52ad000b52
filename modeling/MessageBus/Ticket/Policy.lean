import MessageBus.Number.Double
import MessageBus.Time.Duration

/-! How deliveries are retried: the delay before the next attempt, and how many attempts there are.
-/
namespace MessageBus

inductive BackoffStrategy where
  /-- The base delay, always. -/
  | fixed
  /-- The base delay, doubled with every retry. -/
  | exponential
  /-- The base delay times the number of the retry. -/
  | linear
  deriving DecidableEq, Repr

/-- How long a failed ticket waits. The jitter is the part of the delay by which it is spread, in a
way that depends on the number of the retry alone. -/
structure BackoffPolicy where
  baseDelay : Duration
  maxDelay : Duration
  strategy : BackoffStrategy
  jitter : Number.Double
  deriving DecidableEq

namespace BackoffPolicy

def default : BackoffPolicy where
  baseDelay := .ofMillis 500
  maxDelay := .ofSecs 60
  strategy := .exponential
  jitter := .ofFloat 0.1

def fixed (delay : Duration) : BackoffPolicy where
  baseDelay := delay
  maxDelay := delay
  strategy := .fixed
  jitter := .ofFloat 0

/-- Failed tickets are ready again at once. -/
def none : BackoffPolicy := fixed .zero

def exponential (baseDelay maxDelay : Duration) : BackoffPolicy where
  baseDelay := baseDelay
  maxDelay := maxDelay
  strategy := .exponential
  jitter := .ofFloat 0.1

def lesser (x y : Float) : Float := if y < x then y else x

/-- Milliseconds before retry number `retry`, without jitter. Doubling ends after thirty times. -/
def plainMillis (p : BackoffPolicy) (retry : UInt32) : Float :=
  let base := Number.nearestFloat p.baseDelay.millis
  let greatest := Number.nearestFloat p.maxDelay.millis
  match p.strategy with
  | .fixed => base
  | .exponential => lesser (base * (1 <<< min (retry.toNat - 1) 30 : Nat).toUInt64.toFloat) greatest
  | .linear => lesser (base * retry.toFloat) greatest

/-- The part added to a delay: a fraction of its jitter range between -1 and 1. -/
def jitterMillis (p : BackoffPolicy) (retry : UInt32) (delay : Float) : Float :=
  let range := delay * p.jitter.toFloat
  if 0 < range then
    let spread := (17 * retry.toNat % 100).toUInt64.toFloat / 100
    range * (spread - 0.5) * 2
  else 0

/-- The delay before retry number `retry`; the first one has number 1. -/
def delayBefore (p : BackoffPolicy) (retry : UInt32) : Duration :=
  if retry = 0 then .zero
  else
    let delay := p.plainMillis retry
    let total := delay + p.jitterMillis retry delay
    .ofMillis (if 0 < total then total.toUInt64 else 0)

@[simp] theorem delayBefore_zero (p : BackoffPolicy) : p.delayBefore 0 = .zero := by
  simp [delayBefore]

end BackoffPolicy

/-- How the tickets of one queue are delivered. -/
structure DeliveryPolicy where
  /-- In the order of publishing, each ticket only when those before it are done. -/
  fifo : Bool
  /-- The age at which a claim without a heartbeat may be taken over. -/
  processingTimeout : Duration
  /-- The number of failures that suspends a ticket; without one it is retried for ever. -/
  maxRetry : Option UInt32
  deriving DecidableEq

namespace DeliveryPolicy

def default : DeliveryPolicy := ⟨false, .ofSecs 30, some 5⟩

def inOrder (timeout : Duration) : DeliveryPolicy :=
  { default with fifo := true, processingTimeout := timeout }

def anyOrder (timeout : Duration) : DeliveryPolicy :=
  { default with processingTimeout := timeout }

def withMaxRetry (p : DeliveryPolicy) (maxRetry : Option UInt32) : DeliveryPolicy :=
  { p with maxRetry }

/-- Whether this many failures use up the retries. -/
def retriesExhausted (p : DeliveryPolicy) (failures : UInt32) : Bool :=
  p.maxRetry.any fun limit => limit ≤ failures

end DeliveryPolicy
end MessageBus
