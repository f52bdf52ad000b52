import MessageBus.Store.Catalog
import MessageBus.Store.Delivery
import MessageBus.Store.Record

/-! The calls that a store answers, as data. What a process does with a store is a sequence of such
calls, whichever store answers them. -/
namespace MessageBus.Store

inductive Call where
  | startUp (plan : StartupPlan) (now : Instant)
  | registerHost (host : Host)
  | startHostRuntime (runtime : HostRuntime)
  | endHostRuntime (runtime : HostRuntimeId) (now : Instant)
  | registerScenario (scenario : Scenario)
  | registerMessageType (spec : MessageTypeSpec)
  | registerPublisher (scenario : ScenarioId) (spec : PublisherSpec)
  | registerSubscriber (scenario : ScenarioId) (spec : SubscriberSpec)
  | registerJob (scenario : ScenarioId) (spec : JobSpec)
  | startInstance (record : InstanceRecord)
  | touchInstance (ref : InstanceRef) (now : Instant)
  | messageTypeByName (name : String)
  | messageTypeById (id : MessageTypeId)
  | loadSubscriber (id : SubscriberId)
  | loadJob (id : JobId)
  | resolveTargets (scenario : ScenarioId) (messageType : MessageTypeId)
  | publish (message : Message) (targets : List QueueRef)
  | findNextFifo (queue : QueueRef) (eligible : List TicketState) (timeout : Duration)
      (now : Instant)
  | findNextNonFifo (queue : QueueRef) (eligible : List TicketState) (timeout : Duration)
      (now : Instant)
  | tryClaim (candidate : Ticket) (consumer : Consumer) (timeout : Duration) (now : Instant)
  | commit (consumer : Consumer) (ticket : TicketId) (token : ConcurrencyToken)
      (update : TicketUpdate) (now : Instant)
  | heartbeat (consumer : Consumer) (ticket : TicketId) (token : ConcurrencyToken) (now : Instant)
  | loadTicket (kind : TicketKind) (ticket : TicketId)
  | loadMessage (message : MessageId)
  | ticketsForMessage (message : MessageId)
  | countByState (queue : QueueRef)
  | saveSnapshot (owner : JobInstanceId) (identifier : SnapshotIdentifier) (data : Bytes)
      (now : Instant)
  | transferSnapshot (owner : JobInstanceId) (identifier : SnapshotIdentifier) (now : Instant)
  | loadSnapshot (identifier : SnapshotIdentifier)
  | deleteSnapshot (identifier : SnapshotIdentifier)
  | appendLog (record : LogRecord)
  | listLogs (subject : LogSubject)
  | currentState (subject : LogSubject)

namespace Call

/-- What a call gives when it succeeds. -/
abbrev Answer : Call → Type
  | startUp .. => StartupReceipt
  | registerHost .. => Host
  | startHostRuntime .. => Unit
  | endHostRuntime .. => Unit
  | registerScenario .. => Scenario
  | registerMessageType .. => MessageType
  | registerPublisher .. => Publisher
  | registerSubscriber .. => Subscriber
  | registerJob .. => Job
  | startInstance .. => Unit
  | touchInstance .. => Unit
  | messageTypeByName .. => Option MessageType
  | messageTypeById .. => Option MessageType
  | loadSubscriber .. => Option Subscriber
  | loadJob .. => Option Job
  | resolveTargets .. => List QueueRef
  | publish .. => PublishReceipt
  | findNextFifo .. => Option Ticket
  | findNextNonFifo .. => Option Ticket
  | tryClaim .. => ClaimOutcome
  | commit .. => CommitOutcome
  | heartbeat .. => CommitOutcome
  | loadTicket .. => Option Ticket
  | loadMessage .. => Option Message
  | ticketsForMessage .. => List Ticket
  | countByState .. => List (TicketState × Nat)
  | saveSnapshot .. => Snapshot
  | transferSnapshot .. => Unit
  | loadSnapshot .. => Option Snapshot
  | deleteSnapshot .. => Bool
  | appendLog .. => Unit
  | listLogs .. => List LogRecord
  | currentState .. => Option ComponentState

/-- The name under which calls are counted. -/
def name : Call → String
  | startUp .. => "initialize"
  | registerHost .. => "register_host"
  | startHostRuntime .. => "start_host_runtime"
  | endHostRuntime .. => "end_host_runtime"
  | registerScenario .. => "register_scenario"
  | registerMessageType .. => "register_message_type"
  | registerPublisher .. => "register_publisher"
  | registerSubscriber .. => "register_subscriber"
  | registerJob .. => "register_job"
  | startInstance .. => "start_instance"
  | touchInstance .. => "touch_instance"
  | messageTypeByName .. => "message_type_by_name"
  | messageTypeById .. => "message_type_by_id"
  | loadSubscriber .. => "load_subscriber"
  | loadJob .. => "load_job"
  | resolveTargets .. => "resolve_targets"
  | publish .. => "publish"
  | findNextFifo .. => "find_next_fifo"
  | findNextNonFifo .. => "find_next_non_fifo"
  | tryClaim .. => "try_claim"
  | commit .. => "commit"
  | heartbeat .. => "heartbeat"
  | loadTicket .. => "load_ticket"
  | loadMessage .. => "load_message"
  | ticketsForMessage .. => "tickets_for_message"
  | countByState .. => "count_by_state"
  | saveSnapshot .. => "save_snapshot"
  | transferSnapshot .. => "transfer_snapshot"
  | loadSnapshot .. => "load_snapshot"
  | deleteSnapshot .. => "delete_snapshot"
  | appendLog .. => "append_log"
  | listLogs .. => "list_logs"
  | currentState .. => "current_state"

end Call

/-- The answer to a call, and the store after it. -/
def perform (s : Store) (fresh : Fresh) : (call : Call) → Result call.Answer
  | .startUp plan now => s.startUp plan now
  | .registerHost host => s.registerHost host
  | .startHostRuntime runtime => s.startHostRuntime runtime
  | .endHostRuntime runtime now => s.endHostRuntime runtime now
  | .registerScenario scenario => s.registerScenario scenario
  | .registerMessageType spec => s.registerMessageType spec
  | .registerPublisher scenario spec => s.registerPublisher scenario spec
  | .registerSubscriber scenario spec => s.registerSubscriber scenario spec
  | .registerJob scenario spec => s.registerJob scenario spec
  | .startInstance record => s.startInstance record
  | .touchInstance ref now => s.touchInstance ref now
  | .messageTypeByName name => s.look (s.messageTypeByName? name)
  | .messageTypeById id => s.look (s.messageTypes.get? id)
  | .loadSubscriber id => s.look (s.subscribers.get? id)
  | .loadJob id => s.look (s.jobs.get? id)
  | .resolveTargets scenario messageType => s.look (s.resolveTargets scenario messageType)
  | .publish message targets => s.publish fresh message targets
  | .findNextFifo queue eligible timeout now =>
    s.look (s.findNextFifo queue eligible timeout now)
  | .findNextNonFifo queue eligible timeout now =>
    s.look (s.findNextNonFifo queue eligible timeout now)
  | .tryClaim candidate consumer timeout now => s.tryClaim fresh candidate consumer timeout now
  | .commit consumer ticket token update now => s.commit fresh consumer ticket token update now
  | .heartbeat consumer ticket token now => s.heartbeat consumer ticket token now
  | .loadTicket kind ticket => s.look (s.loadTicket? kind ticket)
  | .loadMessage message => s.look (s.messages.get? message)
  | .ticketsForMessage message => s.look (s.ticketsForMessage message)
  | .countByState queue => s.look (s.countByState queue)
  | .saveSnapshot owner identifier data now => s.saveSnapshot owner identifier data now
  | .transferSnapshot owner identifier now => s.transferSnapshot owner identifier now
  | .loadSnapshot identifier => s.look (s.snapshots.get? identifier)
  | .deleteSnapshot identifier => s.deleteSnapshot identifier
  | .appendLog record => s.appendLog record
  | .listLogs subject => s.look (s.listLogs subject)
  | .currentState subject => s.look (s.status? subject)

end MessageBus.Store
