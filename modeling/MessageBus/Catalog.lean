import MessageBus.Key
import MessageBus.Lifecycle
import MessageBus.Ticket.Policy
import MessageBus.Time.Instant

/-! The catalog: hosts and their processes, scenarios, message types, the publishers, subscribers
and jobs of a scenario, and the running instances of these components. -/
namespace MessageBus

structure Host where
  id : HostId
  name : String
  deriving DecidableEq

structure HostRuntime where
  id : HostRuntimeId
  host : HostId
  userName : String
  machineName : String
  started : Instant
  ended : Option Instant
  state : ComponentState
  deriving DecidableEq

structure Scenario where
  id : ScenarioId
  name : String
  deriving DecidableEq

/-- A message type to be registered. The name is the key; the payload type that it stands for must
not change. -/
structure MessageTypeSpec where
  name : String
  typeName : String
  deriving DecidableEq

structure MessageType where
  id : MessageTypeId
  name : String
  typeName : String
  deriving DecidableEq

/-- A publisher to be registered, with the name of its message type. -/
structure PublisherSpec where
  id : PublisherId
  name : String
  messageType : String
  deriving DecidableEq

structure Publisher where
  id : PublisherId
  name : String
  scenario : ScenarioId
  messageType : MessageTypeId
  deriving DecidableEq

structure SubscriberSpec where
  id : SubscriberId
  name : String
  messageType : String
  policy : DeliveryPolicy
  deriving DecidableEq

structure Subscriber where
  id : SubscriberId
  name : String
  scenario : ScenarioId
  messageType : MessageTypeId
  policy : DeliveryPolicy
  deriving DecidableEq

/-- A job to be registered. Its name is unique within the scenario, and the store gives it a number.
A job that consumes messages names their type. -/
structure JobSpec where
  name : String
  messageType : Option String
  policy : DeliveryPolicy
  deriving DecidableEq

structure Job where
  id : JobId
  name : String
  scenario : ScenarioId
  messageType : Option MessageTypeId
  policy : DeliveryPolicy
  deriving DecidableEq

/-- One running instance of a component. -/
structure Instance (ι κ : Type) where
  id : ι
  component : κ
  hostRuntime : HostRuntimeId
  created : Instant
  lastActivity : Instant
  state : ComponentState
  deriving DecidableEq

abbrev PublisherInstance := Instance PublisherInstanceId PublisherId
abbrev SubscriberInstance := Instance SubscriberInstanceId SubscriberId
abbrev JobInstance := Instance JobInstanceId JobId

/-- An instance that is about to start. -/
def Instance.starting {ι κ : Type} (id : ι) (component : κ) (runtime : HostRuntimeId)
    (now : Instant) : Instance ι κ :=
  ⟨id, component, runtime, now, now, .starting⟩

/-- A reference to an instance of any kind. -/
inductive InstanceRef where
  | publisher (id : PublisherInstanceId)
  | subscriber (id : SubscriberInstanceId)
  | job (id : JobInstanceId)
  deriving DecidableEq

instance : ToString InstanceRef where
  toString
    | .publisher id => s!"publisher-instance:{id}"
    | .subscriber id => s!"subscriber-instance:{id}"
    | .job id => s!"job-instance:{id}"

instance : Shown InstanceRef where
  shown
    | .publisher id => s!"Publisher({shown id})"
    | .subscriber id => s!"Subscriber({shown id})"
    | .job id => s!"Job({shown id})"

/-- The row of an instance of any kind. -/
inductive InstanceRecord where
  | publisher (row : PublisherInstance)
  | subscriber (row : SubscriberInstance)
  | job (row : JobInstance)
  deriving DecidableEq

namespace InstanceRecord

def ref : InstanceRecord → InstanceRef
  | publisher row => .publisher row.id
  | subscriber row => .subscriber row.id
  | job row => .job row.id

def hostRuntime : InstanceRecord → HostRuntimeId
  | publisher row => row.hostRuntime
  | subscriber row => row.hostRuntime
  | job row => row.hostRuntime

end InstanceRecord
end MessageBus
