import MessageBus.Report.Outcome
import MessageBus.Store.Call

/-! The answers of a store as data. -/
namespace MessageBus

def Consumer.report (c : Consumer) : Json :=
  .ofMembers
    [("consumer", toJson c), ("queue", .string (toString c.queue)), ("kind", toJson c.queue.kind),
      ("instance", .string (toString c.ref)), ("uuid", toJson c.instanceUuid)]

def StartupReceipt.report (r : StartupReceipt) : Json :=
  .ofMembers
    [("host", toJson r.host), ("runtime", toJson r.runtime), ("scenario", toJson r.scenario),
      ("message_types", toJson r.messageTypes), ("publishers", toJson r.publishers),
      ("subscribers", toJson r.subscribers), ("jobs", toJson r.jobs),
      ("instances", toJson r.instances)]

/-- Counts by name. -/
def countsReport (counts : List (String × Nat)) : Json :=
  .ofMembers (counts.map fun (name, n) => (name, .nat n))

namespace Store.Call

/-- The answer to a call; null where there is nothing to tell. -/
def report : (call : Call) → call.Answer → Json
  | startUp .., receipt => StartupReceipt.report receipt
  | registerHost .., row => toJson (row : Host)
  | startHostRuntime .., _ => .null
  | endHostRuntime .., _ => .null
  | registerScenario .., row => toJson (row : Scenario)
  | registerMessageType .., row => toJson (row : MessageType)
  | registerPublisher .., row => toJson (row : Publisher)
  | registerSubscriber .., row => toJson (row : Subscriber)
  | registerJob .., row => toJson (row : Job)
  | startInstance .., _ => .null
  | touchInstance .., _ => .null
  | messageTypeByName .., row => toJson (row : Option MessageType)
  | messageTypeById .., row => toJson (row : Option MessageType)
  | loadSubscriber .., row => toJson (row : Option Subscriber)
  | loadJob .., row => toJson (row : Option Job)
  | resolveTargets .., queues => .array (queues.map fun q => .string (toString (q : QueueRef)))
  | publish .., receipt => PublishReceipt.report receipt
  | findNextFifo .., ticket => reportOr Ticket.report ticket
  | findNextNonFifo .., ticket => reportOr Ticket.report ticket
  | tryClaim .., claim => ClaimOutcome.report claim
  | commit .., outcome => CommitOutcome.report outcome
  | heartbeat .., outcome => CommitOutcome.report outcome
  | loadTicket .., ticket => reportOr Ticket.report ticket
  | loadMessage .., message => reportOr Message.report message
  | ticketsForMessage .., tickets => .array (tickets.map Ticket.report)
  | countByState .., counts =>
    countsReport (counts.map fun (state, n) => (TicketState.label state, n))
  | saveSnapshot .., snapshot => Snapshot.report snapshot
  | transferSnapshot .., _ => .null
  | loadSnapshot .., snapshot => reportOr Snapshot.report snapshot
  | deleteSnapshot .., existed => .bool existed
  | appendLog .., _ => .null
  | listLogs .., records => toJson (records : List LogRecord)
  | currentState .., state => toJson (state : Option ComponentState)

end Store.Call
end MessageBus
