import MessageBus.Worker.Poll

/-! The life of a consumer: it polls until it is cancelled or meets an error that another attempt
does not mend, and records when it starts and how it ends. -/
namespace MessageBus.Worker
variable {η : Type} (w : Worker η)

/-- What comes after a poll. -/
inductive Next where
  | poll
  | pause (span : Duration)
  | stop (result : Except StoreError Unit)

def afterPoll : Except StoreError PollOutcome → Next
  | .ok .empty => .pause w.config.pollInterval
  | .ok _ => .poll
  | .error .cancelled => .stop (.ok ())
  | .error e => if e.isFatal then .stop (.error e) else .pause w.config.errorBackoff

/-- Polls at most `limit` times. There is no result when the limit is reached first. -/
def pollUntilStopped : (limit : Nat) → Routine η (Option (Except StoreError Unit))
  | 0 => return none
  | limit + 1 => do
    if ← Routine.ask .isCancelled then return some (.ok ())
    match w.afterPoll (← w.runOnce.run) with
    | .poll => pollUntilStopped limit
    | .pause span => do
      if ← Routine.ask (.pause span) then return some (.ok ())
      pollUntilStopped limit
    | .stop result => return some result

/-- Records a change of the worker's own state. -/
def report (state : ComponentState) (text : String) : Routine η Unit := do
  let _ ← Audit.status w.correlation (.component w.consumer.ref) state text

/-- The whole life of a worker that ends within `limit` polls. -/
def run (limit : Nat) : Routine η (Option (Except StoreError Unit)) := do
  w.report .running "consumer started"
  let result ← w.pollUntilStopped limit
  match result with
  | some (.ok ()) => w.report .stopped "consumer stopped"
  | some (.error e) => w.report .faulted e.message
  | none => pure ()
  return result

end MessageBus.Worker
