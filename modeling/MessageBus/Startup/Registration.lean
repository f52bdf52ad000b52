import MessageBus.Startup.Plan

/-! Carrying out a startup plan. The catalog writes come from a registrar, so that every store
resolves a plan in the same way. -/
namespace MessageBus

/-- The catalog writes of one registration. The number of a requested job is not looked at; the row
that comes back has the number of the store. -/
structure Registrar (m : Type → Type) where
  host : Host → m Host
  hostRuntime : HostRuntime → m Unit
  scenario : Scenario → m Scenario
  messageType : MessageTypeSpec → m MessageType
  messageTypeByName : String → m (Option MessageType)
  publisher : Publisher → m Publisher
  subscriber : Subscriber → m Subscriber
  job : Job → m Job
  start : InstanceRecord → m Unit

namespace StartupPlan

/-- Message types seen so far in a registration, by name; the newest is first. -/
abbrev KnownTypes := List (String × MessageTypeId)

section
variable {m : Type → Type} [Monad m] [MonadExceptOf StoreError m] (registrar : Registrar m)

/-- The number of a message type: one seen in this registration, or one in the catalog. -/
def resolveType (known : KnownTypes) (name : String) : m (MessageTypeId × KnownTypes) :=
  match known.lookup name with
  | some id => pure (id, known)
  | none => do
    match ← registrar.messageTypeByName name with
    | some found => pure (found.id, (found.name, found.id) :: known)
    | none => throw (.notFound "message type" name)

def registerTypes (known : KnownTypes) :
    List MessageTypeSpec → m (List MessageType × KnownTypes)
  | [] => pure ([], known)
  | spec :: rest => do
    let row ← registrar.messageType spec
    let (rows, known) ← registerTypes ((row.name, row.id) :: known) rest
    pure (row :: rows, known)

def registerPublishers (scenario : ScenarioId) (known : KnownTypes) :
    List PublisherSpec → m (List Publisher × KnownTypes)
  | [] => pure ([], known)
  | spec :: rest => do
    let (messageType, known) ← resolveType registrar known spec.messageType
    let row ← registrar.publisher ⟨spec.id, spec.name, scenario, messageType⟩
    let (rows, known) ← registerPublishers scenario known rest
    pure (row :: rows, known)

def registerSubscribers (scenario : ScenarioId) (known : KnownTypes) :
    List SubscriberSpec → m (List Subscriber × KnownTypes)
  | [] => pure ([], known)
  | spec :: rest => do
    let (messageType, known) ← resolveType registrar known spec.messageType
    let row ← registrar.subscriber ⟨spec.id, spec.name, scenario, messageType, spec.policy⟩
    let (rows, known) ← registerSubscribers scenario known rest
    pure (row :: rows, known)

def resolveType? (known : KnownTypes) :
    Option String → m (Option MessageTypeId × KnownTypes)
  | none => pure (none, known)
  | some name => do
    let (id, known) ← resolveType registrar known name
    pure (some id, known)

def registerJobs (scenario : ScenarioId) (known : KnownTypes) : List JobSpec → m (List Job)
  | [] => pure []
  | spec :: rest => do
    let (messageType, known) ← resolveType? registrar known spec.messageType
    let row ← registrar.job ⟨⟨0⟩, spec.name, scenario, messageType, spec.policy⟩
    let rows ← registerJobs scenario known rest
    pure (row :: rows)

end

/-- The row of a planned instance. Its component must be among those registered. -/
def plannedRecord (publishers : List Publisher) (subscribers : List Subscriber) (jobs : List Job)
    (runtime : HostRuntimeId) (now : Instant) : PlannedInstance → Except StoreError InstanceRecord
  | .publisher id runner =>
    if publishers.any fun p => p.id == id then
      .ok (.publisher (.starting runner id runtime now))
    else .error (.validation
      s!"instance {runner} runs publisher {id}, which is not part of the plan")
  | .subscriber id runner =>
    if subscribers.any fun s => s.id == id then
      .ok (.subscriber (.starting runner id runtime now))
    else .error (.validation
      s!"instance {runner} runs subscriber {id}, which is not part of the plan")
  | .job name runner =>
    match jobs.find? fun j => j.name == name with
    | some job => .ok (.job (.starting runner job.id runtime now))
    | none => .error (.validation
        s!"instance {runner} runs job '{name}', which is not part of the plan")

/-- The runtime row that a plan starts. -/
def runtimeRow (p : StartupPlan) (host : HostId) (now : Instant) : HostRuntime where
  id := p.runtime
  host := host
  userName := p.userName
  machineName := p.machineName
  started := now
  ended := none
  state := .starting

section
variable {m : Type → Type} [Monad m] [MonadExceptOf StoreError m] (registrar : Registrar m)

def startInstances (record : PlannedInstance → Except StoreError InstanceRecord) :
    List PlannedInstance → m (List InstanceRecord)
  | [] => pure []
  | planned :: rest => do
    let row ← MonadExcept.ofExcept (record planned)
    registrar.start row
    let rows ← startInstances record rest
    pure (row :: rows)

/-- Registers everything in the plan's order; the first failure ends it. -/
def carryOut (p : StartupPlan) (now : Instant) : m StartupReceipt := do
  let host ← registrar.host p.host
  let runtime := p.runtimeRow host.id now
  registrar.hostRuntime runtime
  let scenario ← registrar.scenario p.scenario
  let (messageTypes, known) ← registerTypes registrar [] p.messageTypes
  let (publishers, known) ← registerPublishers registrar scenario.id known p.publishers
  let (subscribers, known) ← registerSubscribers registrar scenario.id known p.subscribers
  let jobs ← registerJobs registrar scenario.id known p.jobs
  let instances ←
    startInstances registrar (plannedRecord publishers subscribers jobs runtime.id now) p.instances
  pure { host, runtime, scenario, messageTypes, publishers, subscribers, jobs, instances }

end

end StartupPlan
end MessageBus
