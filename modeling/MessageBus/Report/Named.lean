import MessageBus.Json.RowForm

/-! The data forms by the names of their types. Data of a named type is read and written back, which
gives its normal form; for keys and references the texts are given too. -/
namespace MessageBus

/-- The reading of data as one type, with what is then told about the value. -/
structure NamedForm where
  typeName : String
  normal? : Json → Option (List (String × Json))

namespace NamedForm

/-- The value itself. -/
def of (α : Type) [JsonForm α] (typeName : String) : NamedForm where
  typeName := typeName
  normal? j := (ofJson? j : Option α).map fun a => [("ok", toJson a)]

/-- The two texts of a value. -/
def texts {α : Type} [ToString α] [Shown α] (a : α) : List (String × Json) :=
  [("display", .string (toString a)), ("debug", .string (shown a))]

/-- The value itself, and its texts. -/
def withTexts (α : Type) [JsonForm α] [ToString α] [Shown α] (typeName : String) : NamedForm where
  typeName := typeName
  normal? j := (ofJson? j : Option α).map fun a => ("ok", toJson a) :: texts a

def all : List NamedForm :=
  [withTexts HostId "HostId", withTexts MessageId "MessageId", withTexts TicketId "TicketId",
    withTexts JobId "JobId", withTexts MessageTypeId "MessageTypeId",
    withTexts SnapshotIdentifier "SnapshotIdentifier",
    withTexts ConcurrencyToken "ConcurrencyToken", withTexts InstanceRef "InstanceRef",
    withTexts QueueRef "QueueRef", withTexts LogSubject "LogSubject",
    of HostRuntimeId "HostRuntimeId", of ScenarioId "ScenarioId", of PublisherId "PublisherId",
    of PublisherInstanceId "PublisherInstanceId", of SubscriberId "SubscriberId",
    of SubscriberInstanceId "SubscriberInstanceId", of JobInstanceId "JobInstanceId",
    of LogId "LogId", of TicketState "TicketState", of ComponentState "ComponentState",
    of LogLevel "LogLevel", of TicketKind "TicketKind", of BackoffStrategy "BackoffStrategy",
    of BackoffPolicy "BackoffPolicy", of DeliveryPolicy "DeliveryPolicy", of Host "Host",
    of HostRuntime "HostRuntime", of Scenario "Scenario", of MessageTypeSpec "MessageTypeSpec",
    of MessageType "MessageType", of PublisherSpec "PublisherSpec", of Publisher "Publisher",
    of SubscriberSpec "SubscriberSpec", of Subscriber "Subscriber", of JobSpec "JobSpec",
    of Job "Job", of PublisherInstance "PublisherInstance",
    of SubscriberInstance "SubscriberInstance", of JobInstance "JobInstance",
    of InstanceRecord "InstanceRecord", of Consumer "Consumer", of Message "Message",
    of Ticket "DeliveryTicket", of Snapshot "Snapshot", of LogRecord "LogRecord",
    of PlannedInstance "PlannedInstance", of StartupPlan "StartupPlan"]

def find? (typeName : String) : Option NamedForm :=
  all.find? fun form => form.typeName == typeName

end NamedForm
end MessageBus
