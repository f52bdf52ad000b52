import MessageBus.Correlation
import MessageBus.Routine

/-! Lifecycle records that never fail the process that writes them. -/
namespace MessageBus

/-- Where a record went. -/
inductive AuditOutcome where
  | persisted
  /-- The store refused it. -/
  | fallback
  deriving DecidableEq, Repr

namespace Audit
variable {η : Type}

/-- Writes a record, with a correlation identifier from `source` if it has none. -/
def log (source : Correlation) (record : LogRecord) : Routine η AuditOutcome := do
  let scopes ← Routine.ask .correlationScopes
  let id := record.correlationId.or (source.current scopes)
  match ← Routine.ask (.store (.appendLog { record with correlationId := id })) with
  | .ok _ => return .persisted
  | .error _ => return .fallback

/-- A new record about a subject. -/
def record (subject : LogSubject) (level : LogLevel) (text : String)
    (message : Option MessageId) (status : Option ComponentState) : Routine η LogRecord := do
  let id ← Routine.ask .freshLog
  let now ← Routine.ask .now
  return ⟨id, subject, level, text, message, status, none, now⟩

/-- A change of the state of a subject. -/
def status (source : Correlation) (subject : LogSubject) (state : ComponentState)
    (text : String) : Routine η AuditOutcome := do
  log source (← record subject (.forStatus state) text none (some state))

/-- Something that happened while an instance handled a message. -/
def messageEvent (source : Correlation) (ref : InstanceRef) (message : MessageId)
    (level : LogLevel) (text : String) : Routine η AuditOutcome := do
  log source (← record (.component ref) level text (some message) none)

end Audit
end MessageBus
