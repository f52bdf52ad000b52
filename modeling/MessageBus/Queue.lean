import MessageBus.Catalog

/-! Queues and their consumers. A queue belongs to one subscriber or to one job, and a consumer is a
running instance of it. -/
namespace MessageBus

/-- The two stores of tickets. -/
inductive TicketKind where
  | subscriber
  | tempQueue
  deriving DecidableEq, Repr

inductive QueueRef where
  | subscriber (id : SubscriberId)
  | job (id : JobId)
  deriving DecidableEq

namespace QueueRef

def kind : QueueRef → TicketKind
  | subscriber _ => .subscriber
  | job _ => .tempQueue

instance : ToString QueueRef where
  toString
    | .subscriber id => s!"subscriber:{id}"
    | .job id => s!"job:{id}"

instance : Shown QueueRef where
  shown
    | .subscriber id => s!"Subscriber({shown id})"
    | .job id => s!"Job({shown id})"

end QueueRef

/-- The identity under which tickets of a queue are claimed. -/
inductive Consumer where
  | subscriber (id : SubscriberId) (runner : SubscriberInstanceId)
  | job (id : JobId) (runner : JobInstanceId)
  deriving DecidableEq

namespace Consumer

def queue : Consumer → QueueRef
  | subscriber id _ => .subscriber id
  | job id _ => .job id

def ref : Consumer → InstanceRef
  | subscriber _ i => .subscriber i
  | job _ i => .job i

def instanceUuid : Consumer → Uuid
  | subscriber _ i => i.uuid
  | job _ i => i.uuid

end Consumer
end MessageBus
