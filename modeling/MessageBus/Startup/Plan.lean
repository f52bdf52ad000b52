import MessageBus.Queue

/-! What a process of the bus registers when it starts, and the rows that it gets back. -/
namespace MessageBus

/-- An instance that the process is going to run. A job is planned by name, since its number is
known only after registration. -/
inductive PlannedInstance where
  | publisher (id : PublisherId) (runner : PublisherInstanceId)
  | subscriber (id : SubscriberId) (runner : SubscriberInstanceId)
  | job (name : String) (runner : JobInstanceId)
  deriving DecidableEq

structure StartupPlan where
  host : Host
  runtime : HostRuntimeId
  userName : String
  machineName : String
  scenario : Scenario
  messageTypes : List MessageTypeSpec
  publishers : List PublisherSpec
  subscribers : List SubscriberSpec
  jobs : List JobSpec
  instances : List PlannedInstance
  deriving DecidableEq

namespace StartupPlan

def empty (host : Host) (scenario : Scenario) (runtime : HostRuntimeId) : StartupPlan where
  host := host
  runtime := runtime
  userName := ""
  machineName := ""
  scenario := scenario
  messageTypes := []
  publishers := []
  subscribers := []
  jobs := []
  instances := []

def withProcess (p : StartupPlan) (userName machineName : String) : StartupPlan :=
  { p with userName, machineName }

def withMessageType (p : StartupPlan) (spec : MessageTypeSpec) : StartupPlan :=
  { p with messageTypes := p.messageTypes ++ [spec] }

/-- Runs one more instance of a component of the plan. -/
def withInstance (p : StartupPlan) (planned : PlannedInstance) : StartupPlan :=
  { p with instances := p.instances ++ [planned] }

/-- Registers a publisher and runs one instance of it. -/
def withPublisher (p : StartupPlan) (spec : PublisherSpec) (runner : PublisherInstanceId) :
    StartupPlan :=
  { p.withInstance (.publisher spec.id runner) with publishers := p.publishers ++ [spec] }

def withSubscriber (p : StartupPlan) (spec : SubscriberSpec) (runner : SubscriberInstanceId) :
    StartupPlan :=
  { p.withInstance (.subscriber spec.id runner) with subscribers := p.subscribers ++ [spec] }

def withJob (p : StartupPlan) (spec : JobSpec) (runner : JobInstanceId) : StartupPlan :=
  { p.withInstance (.job spec.name runner) with jobs := p.jobs ++ [spec] }

end StartupPlan

/-- The rows of a plan that was carried out. -/
structure StartupReceipt where
  host : Host
  runtime : HostRuntime
  scenario : Scenario
  messageTypes : List MessageType
  publishers : List Publisher
  subscribers : List Subscriber
  jobs : List Job
  instances : List InstanceRecord
  deriving DecidableEq

namespace StartupReceipt

def messageType? (r : StartupReceipt) (name : String) : Option MessageType :=
  r.messageTypes.find? fun t => t.name == name

def job? (r : StartupReceipt) (name : String) : Option Job :=
  r.jobs.find? fun j => j.name == name

def subscriber? (r : StartupReceipt) (id : SubscriberId) : Option Subscriber :=
  r.subscribers.find? fun s => s.id == id

/-- The first instance of the publisher that the process started. -/
def publisherInstance? (r : StartupReceipt) (id : PublisherId) : Option PublisherInstanceId :=
  r.instances.findSome? fun
    | .publisher row => if row.component = id then some row.id else none
    | _ => none

/-- The identities under which the process claims tickets. -/
def consumers (r : StartupReceipt) : List Consumer :=
  r.instances.filterMap fun
    | .publisher _ => none
    | .subscriber row => some (.subscriber row.component row.id)
    | .job row => some (.job row.component row.id)

def subscriberConsumer? (r : StartupReceipt) (id : SubscriberId) : Option Consumer :=
  r.consumers.find? fun
    | .subscriber s _ => s == id
    | .job .. => false

def jobConsumer? (r : StartupReceipt) (name : String) : Option Consumer := do
  let job ← r.job? name
  r.consumers.find? fun
    | .job j _ => j == job.id
    | .subscriber .. => false

end StartupReceipt
end MessageBus
