import MessageBus.Startup.Registration
import MessageBus.Store.Basic

/-! Registration in a store. A row is made by its first registration; a later one must agree with
its identity, and renews the delivery policy of a subscriber or a job. -/
namespace MessageBus.Store

def registerHost (s : Store) (host : Host) : Result Host :=
  s.attempt do
    match s.hosts.get? host.id with
    | some stored =>
      ensureSame "host" (toString host.id) "name" stored.name host.name
      return (stored, s)
    | none => return (host, { s with hosts := s.hosts.insert host.id host })

def startHostRuntime (s : Store) (runtime : HostRuntime) : Result Unit :=
  s.attempt do
    let _ ← require s.hosts "host" runtime.host
    if s.runtimes.contains runtime.id then
      throw (.integrity "insert_host_runtime" 1 0)
    return ((), { s with runtimes := s.runtimes.insert runtime.id runtime })

def endHostRuntime (s : Store) (runtime : HostRuntimeId) (now : Instant) : Result Unit :=
  s.attempt do
    let row ← require s.runtimes "host runtime" runtime
    let stopped := { row with ended := some now, state := .stopped }
    return ((), { s with runtimes := s.runtimes.insert runtime stopped })

/-- A name belongs to one scenario. -/
def registerScenario (s : Store) (scenario : Scenario) : Result Scenario :=
  s.attempt do
    if s.scenarios.values.any fun row => row.name == scenario.name && row.id != scenario.id then
      throw (.registrationConflict "scenario" scenario.name
        "name is registered under a different id")
    match s.scenarios.get? scenario.id with
    | some stored =>
      ensureSame "scenario" (toString scenario.id) "name" stored.name scenario.name
      return (stored, s)
    | none => return (scenario, { s with scenarios := s.scenarios.insert scenario.id scenario })

def registerMessageType (s : Store) (spec : MessageTypeSpec) : Result MessageType :=
  s.attempt do
    match s.messageTypeByName? spec.name with
    | some stored =>
      ensureSame "message type" spec.name "type name" stored.typeName spec.typeName
      return (stored, s)
    | none =>
      let id ← nextNumber s.lastMessageType
      let row : MessageType := ⟨⟨id⟩, spec.name, spec.typeName⟩
      return (row, { s with
        messageTypes := s.messageTypes.insert row.id row
        lastMessageType := id })

/-- Registers a publisher whose message type has been looked up. -/
def putPublisher (s : Store) (row : Publisher) : Result Publisher :=
  s.attempt do
    let _ ← require s.scenarios "scenario" row.scenario
    let _ ← require s.messageTypes "message type" row.messageType
    match s.publishers.get? row.id with
    | some stored =>
      let key := toString row.id
      ensureSame "publisher" key "name" stored.name row.name
      ensureSame "publisher" key "scenario" stored.scenario row.scenario
      ensureSame "publisher" key "message type" stored.messageType row.messageType
      return (stored, s)
    | none => return (row, { s with publishers := s.publishers.insert row.id row })

def putSubscriber (s : Store) (row : Subscriber) : Result Subscriber :=
  s.attempt do
    let _ ← require s.scenarios "scenario" row.scenario
    let _ ← require s.messageTypes "message type" row.messageType
    if let some stored := s.subscribers.get? row.id then
      let key := toString row.id
      ensureSame "subscriber" key "name" stored.name row.name
      ensureSame "subscriber" key "scenario" stored.scenario row.scenario
      ensureSame "subscriber" key "message type" stored.messageType row.messageType
    return (row, { s with subscribers := s.subscribers.insert row.id row })

def jobNamed? (s : Store) (scenario : ScenarioId) (name : String) : Option Job :=
  s.jobs.values.find? fun job => job.scenario == scenario && job.name == name

/-- A job is known by its name within the scenario, and a new one gets the next number. -/
def putJob (s : Store) (row : Job) : Result Job :=
  s.attempt do
    let _ ← require s.scenarios "scenario" row.scenario
    if let some messageType := row.messageType then
      let _ ← require s.messageTypes "message type" messageType
    match s.jobNamed? row.scenario row.name with
    | some stored =>
      ensureSame "job" row.name "message type" stored.messageType row.messageType
      let renewed := { stored with policy := row.policy }
      return (renewed, { s with jobs := s.jobs.insert stored.id renewed })
    | none =>
      let id ← nextNumber s.lastJob
      let numbered := { row with id := ⟨id⟩ }
      return (numbered, { s with jobs := s.jobs.insert ⟨id⟩ numbered, lastJob := id })

def hasInstance (s : Store) : InstanceRef → Bool
  | .publisher id => s.publisherInstances.contains id
  | .subscriber id => s.subscriberInstances.contains id
  | .job id => s.jobInstances.contains id

def putInstance (s : Store) : InstanceRecord → Store
  | .publisher row =>
    { s with publisherInstances := s.publisherInstances.insert row.id row }
  | .subscriber row =>
    { s with subscriberInstances := s.subscriberInstances.insert row.id row }
  | .job row => { s with jobInstances := s.jobInstances.insert row.id row }

/-- The rows that an instance refers to must be there. -/
def requireParts (s : Store) (record : InstanceRecord) : Except StoreError Unit := do
  let _ ← require s.runtimes "host runtime" record.hostRuntime
  match record with
  | .publisher row => let _ ← require s.publishers "publisher" row.component
  | .subscriber row => let _ ← require s.subscribers "subscriber" row.component
  | .job row => let _ ← require s.jobs "job" row.component

/-- A second row of an instance takes the place of the first one, and is reported as a fault. -/
def startInstance (s : Store) (record : InstanceRecord) : Result Unit :=
  match s.requireParts record with
  | .error e => (.error e, s)
  | .ok () =>
    let answer :=
      if s.hasInstance record.ref then .error (.integrity "insert_instance" 1 0) else .ok ()
    (answer, s.putInstance record)

def touchInstance (s : Store) (ref : InstanceRef) (now : Instant) : Result Unit :=
  if s.hasInstance ref then
    (.ok (), match ref with
      | .publisher id => { s with
          publisherInstances := s.publisherInstances.update id ({ · with lastActivity := now }) }
      | .subscriber id => { s with
          subscriberInstances := s.subscriberInstances.update id ({ · with lastActivity := now }) }
      | .job id => { s with
          jobInstances := s.jobInstances.update id ({ · with lastActivity := now }) })
  else (.error (.notFound "instance" (toString ref)), s)

/-! Registration by the name of the message type. -/

def registerPublisher (s : Store) (scenario : ScenarioId) (spec : PublisherSpec) :
    Result Publisher :=
  match s.messageTypeNamed spec.messageType with
  | .error e => (.error e, s)
  | .ok messageType => s.putPublisher ⟨spec.id, spec.name, scenario, messageType.id⟩

def registerSubscriber (s : Store) (scenario : ScenarioId) (spec : SubscriberSpec) :
    Result Subscriber :=
  match s.messageTypeNamed spec.messageType with
  | .error e => (.error e, s)
  | .ok messageType =>
    s.putSubscriber ⟨spec.id, spec.name, scenario, messageType.id, spec.policy⟩

def registerJob (s : Store) (scenario : ScenarioId) (spec : JobSpec) : Result Job :=
  match spec.messageType.mapM s.messageTypeNamed with
  | .error e => (.error e, s)
  | .ok messageType =>
    s.putJob ⟨⟨0⟩, spec.name, scenario, messageType.map MessageType.id, spec.policy⟩

/-- The queues of a scenario that take a message type: subscribers by identifier, then jobs by
number. -/
def resolveTargets (s : Store) (scenario : ScenarioId) (messageType : MessageTypeId) :
    List QueueRef :=
  let subscribers := (s.subscribers.values.filter fun row =>
    row.scenario == scenario && row.messageType == messageType).map Subscriber.id
  let jobs := (s.jobs.values.filter fun row =>
    row.scenario == scenario && row.messageType == some messageType).map Job.id
  (subscribers.mergeSort fun a b => decide (a.uuid ≤ b.uuid)).map .subscriber ++
    (jobs.mergeSort fun a b => decide (a.value ≤ b.value)).map .job

/-! Start of a process. -/

/-- The catalog writes of a store. -/
def registrar : Registrar (ExceptT StoreError (StateM Store)) where
  host host := fun s => s.registerHost host
  hostRuntime runtime := fun s => s.startHostRuntime runtime
  scenario scenario := fun s => s.registerScenario scenario
  messageType spec := fun s => s.registerMessageType spec
  messageTypeByName name := fun s => s.look (s.messageTypeByName? name)
  publisher row := fun s => s.putPublisher row
  subscriber row := fun s => s.putSubscriber row
  job row := fun s => s.putJob row
  start record := fun s => s.startInstance record

/-- Carries out a whole plan, or nothing of it. -/
def startUp (s : Store) (plan : StartupPlan) (now : Instant) : Result StartupReceipt :=
  match (plan.carryOut registrar now).run s with
  | (.ok receipt, after) => (.ok receipt, after)
  | (.error e, _) => (.error e, s)

end MessageBus.Store
