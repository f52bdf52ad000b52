import MessageBus.Database.Column
import MessageBus.Startup.Registration

/-! Registration in a database. A row is inserted or, where it is there already, comes back as it is
stored and must agree with what is asked for. -/
namespace MessageBus.Database

/-- A column of a row of the catalog. -/
def catalogCell (row : SqlRow) (α : Type) [Column α] (name : String) : Except StoreError α :=
  cell row (fun reason => s!"failed to read {name}: {reason}") α name

def hostOfRow (row : SqlRow) : Except StoreError Host :=
  return ⟨⟨← catalogCell row Uuid "id_service_bus_host"⟩, ← catalogCell row String "name"⟩

def scenarioOfRow (row : SqlRow) : Except StoreError Scenario :=
  return ⟨⟨← catalogCell row Uuid "id_scenario"⟩, ← catalogCell row String "name"⟩

def messageTypeOfRow (row : SqlRow) : Except StoreError MessageType :=
  return ⟨⟨← catalogCell row Int32 "id_message_type"⟩, ← catalogCell row String "name",
    ← catalogCell row String "type_name"⟩

def publisherOfRow (row : SqlRow) : Except StoreError Publisher :=
  return ⟨⟨← catalogCell row Uuid "id_publisher"⟩, ← catalogCell row String "name",
    ⟨← catalogCell row Uuid "id_scenario"⟩, ⟨← catalogCell row Int32 "id_message_type"⟩⟩

def policyOfRow (row : SqlRow) : Except StoreError DeliveryPolicy :=
  return policyOfColumns (← catalogCell row Bool "is_fifo")
    (← catalogCell row Int64 "processing_timeout_ms")
    (← catalogCell row (Option Int32) "max_retry")

def subscriberOfRow (row : SqlRow) : Except StoreError Subscriber :=
  return ⟨⟨← catalogCell row Uuid "id_subscriber"⟩, ← catalogCell row String "name",
    ⟨← catalogCell row Uuid "id_scenario"⟩, ⟨← catalogCell row Int32 "id_message_type"⟩,
    ← policyOfRow row⟩

/-- The number of the message type is read first. -/
def jobOfRow (row : SqlRow) : Except StoreError Job := do
  let messageType ← catalogCell row (Option Int32) "id_message_type"
  return ⟨⟨← catalogCell row Int32 "id_job"⟩, ← catalogCell row String "name",
    ⟨← catalogCell row Uuid "id_scenario"⟩, messageType.map MessageTypeId.mk, ← policyOfRow row⟩

/-- The row that a statement may have given. -/
def readRow? {α : Type} (ofRow : SqlRow → Except StoreError α) (row? : Option SqlRow) :
    Session (Option α) :=
  ExceptT.mk (pure (row?.mapM ofRow))

def readRow {α : Type} (ofRow : SqlRow → Except StoreError α) (row : SqlRow) : Session α :=
  ExceptT.mk (pure (ofRow row))

/-- A part of a row's identity must be as it is stored. -/
def same {α : Type} [DecidableEq α] [Shown α] (entity key field : String)
    (stored requested : α) : Session Unit :=
  ExceptT.mk (pure (ensureSame entity key field stored requested))

def upsertHost (host : Host) : Session Host := do
  let row ← Session.row "upsert_host"
    ("INSERT INTO bus.service_bus_host (id_service_bus_host, name) VALUES ($1, $2) " ++
      "ON CONFLICT (id_service_bus_host) DO UPDATE SET name = bus.service_bus_host.name " ++
      "RETURNING id_service_bus_host, name")
    [.uuid host.id.uuid, .text host.name]
  let stored ← readRow hostOfRow row
  same "host" (toString host.id) "name" stored.name host.name
  return stored

def insertHostRuntime (runtime : HostRuntime) : Session Unit :=
  Session.executeOne "insert_host_runtime"
    ("INSERT INTO bus.service_bus_host_runtime ( id_service_bus_host_runtime, " ++
      "id_service_bus_host, user_name, machine_name, started_utc, ended_utc, state ) " ++
      "VALUES ($1, $2, $3, $4, $5, $6, $7)")
    [.uuid runtime.id.uuid, .uuid runtime.host.uuid, .text runtime.userName,
      .text runtime.machineName, .time runtime.started, .optional .time runtime.ended,
      .code runtime.state.code]

/-- A name that is taken shows as a row that is there already. -/
def scenarioFault (scenario : Scenario) (e : SqlError) : StoreError :=
  if e.isUniqueViolation then
    .registrationConflict "scenario" scenario.name "name is registered under a different id"
  else e.toStoreError "upsert_scenario"

def upsertScenario (scenario : Scenario) : Session Scenario := do
  let row ← Session.rowOr (scenarioFault scenario)
    ("INSERT INTO bus.scenario (id_scenario, name) VALUES ($1, $2) " ++
      "ON CONFLICT (id_scenario) DO UPDATE SET name = bus.scenario.name " ++
      "RETURNING id_scenario, name")
    [.uuid scenario.id.uuid, .text scenario.name]
  let stored ← readRow scenarioOfRow row
  same "scenario" (toString scenario.id) "name" stored.name scenario.name
  return stored

def upsertMessageType (spec : MessageTypeSpec) : Session MessageType := do
  let row ← Session.row "upsert_message_type"
    ("INSERT INTO bus.message_type (name, type_name) VALUES ($1, $2) " ++
      "ON CONFLICT (name) DO UPDATE SET name = bus.message_type.name " ++
      "RETURNING id_message_type, name, type_name")
    [.text spec.name, .text spec.typeName]
  let stored ← readRow messageTypeOfRow row
  same "message type" spec.name "type name" stored.typeName spec.typeName
  return stored

def findMessageType (name : String) : Session (Option MessageType) := do
  readRow? messageTypeOfRow (← Session.row? "find_message_type"
    "SELECT id_message_type, name, type_name FROM bus.message_type WHERE name = $1"
    [.text name])

def upsertPublisher (row : Publisher) : Session Publisher := do
  let stored ← readRow publisherOfRow (← Session.row "upsert_publisher"
    ("INSERT INTO bus.publisher (id_publisher, name, id_scenario, id_message_type) " ++
      "VALUES ($1, $2, $3, $4) " ++
      "ON CONFLICT (id_publisher) DO UPDATE SET id_publisher = bus.publisher.id_publisher " ++
      "RETURNING id_publisher, name, id_scenario, id_message_type")
    [.uuid row.id.uuid, .text row.name, .uuid row.scenario.uuid, .int4 row.messageType.value])
  let key := toString row.id
  same "publisher" key "name" stored.name row.name
  same "publisher" key "scenario" stored.scenario row.scenario
  same "publisher" key "message type" stored.messageType row.messageType
  return stored

def subscriberColumns : String :=
  "id_subscriber, name, id_scenario, id_message_type, is_fifo, processing_timeout_ms, max_retry"

def jobColumns : String :=
  "id_job, name, id_scenario, id_message_type, is_fifo, processing_timeout_ms, max_retry"

def findSubscriber (id : SubscriberId) : Session (Option Subscriber) := do
  readRow? subscriberOfRow (← Session.row? "find_subscriber"
    s!"SELECT {subscriberColumns} FROM bus.subscriber WHERE id_subscriber = $1"
    [.uuid id.uuid])

/-- The policy is renewed only where the identity agrees. Otherwise no row comes back, and the
stored one is looked up to say what differs. -/
def upsertSubscriber (row : Subscriber) : Session Subscriber := do
  let upserted ← Session.row? "upsert_subscriber"
    (s!"INSERT INTO bus.subscriber ({subscriberColumns}) VALUES ($1, $2, $3, $4, $5, $6, $7) " ++
      "ON CONFLICT (id_subscriber) DO UPDATE SET is_fifo = EXCLUDED.is_fifo, " ++
      "processing_timeout_ms = EXCLUDED.processing_timeout_ms, max_retry = EXCLUDED.max_retry " ++
      "WHERE bus.subscriber.name = EXCLUDED.name " ++
      "AND bus.subscriber.id_scenario = EXCLUDED.id_scenario " ++
      "AND bus.subscriber.id_message_type = EXCLUDED.id_message_type " ++
      s!"RETURNING {subscriberColumns}")
    ([.uuid row.id.uuid, .text row.name, .uuid row.scenario.uuid, .int4 row.messageType.value] ++
      policyParams row.policy)
  if let some stored := upserted then return ← readRow subscriberOfRow stored
  match ← findSubscriber row.id with
  | none => throw (.notFound "subscriber" (toString row.id))
  | some stored =>
    let key := toString row.id
    same "subscriber" key "name" stored.name row.name
    same "subscriber" key "scenario" stored.scenario row.scenario
    same "subscriber" key "message type" stored.messageType row.messageType
    return stored

def upsertJob (row : Job) : Session Job := do
  let upserted ← Session.row? "upsert_job"
    ("INSERT INTO bus.job (name, id_scenario, id_message_type, is_fifo, " ++
      "processing_timeout_ms, max_retry) VALUES ($1, $2, $3, $4, $5, $6) " ++
      "ON CONFLICT (id_scenario, name) DO UPDATE SET is_fifo = EXCLUDED.is_fifo, " ++
      "processing_timeout_ms = EXCLUDED.processing_timeout_ms, max_retry = EXCLUDED.max_retry " ++
      "WHERE bus.job.id_message_type IS NOT DISTINCT FROM EXCLUDED.id_message_type " ++
      s!"RETURNING {jobColumns}")
    ([.text row.name, .uuid row.scenario.uuid,
      .optional (fun id => .int4 id.value) row.messageType] ++ policyParams row.policy)
  if let some stored := upserted then return ← readRow jobOfRow stored
  let found ← Session.row? "find_job"
    s!"SELECT {jobColumns} FROM bus.job WHERE id_scenario = $1 AND name = $2"
    [.uuid row.scenario.uuid, .text row.name]
  match found with
  | none => throw (.notFound "job" row.name)
  | some found =>
    let stored ← readRow jobOfRow found
    same "job" row.name "message type" stored.messageType row.messageType
    return stored

/-- The columns that the rows of instances of all kinds have. -/
def instanceParams {ι κ : Type} (id : Uuid) (i : Instance ι κ) (component : SqlParam) :
    List SqlParam :=
  [.uuid id, .uuid i.hostRuntime.uuid, .time i.created, .time i.lastActivity,
    .code i.state.code, component]

def insertInstance (record : InstanceRecord) : Session Unit :=
  let (table, idColumn, id) := instanceTable record.ref
  let (component, params) := match record with
    | .publisher i => ("id_publisher", instanceParams id i (.uuid i.component.uuid))
    | .subscriber i => ("id_subscriber", instanceParams id i (.uuid i.component.uuid))
    | .job i => ("id_job", instanceParams id i (.int4 i.component.value))
  Session.executeOne "insert_instance"
    (s!"INSERT INTO {table} ( {idColumn}, id_service_bus_host_runtime, created_utc, " ++
      s!"last_activity_utc, state, {component} ) VALUES ($1, $2, $3, $4, $5, $6)")
    params

/-- The catalog writes of a database. -/
def registrar : Registrar Session where
  host := upsertHost
  hostRuntime := insertHostRuntime
  scenario := upsertScenario
  messageType := upsertMessageType
  messageTypeByName := findMessageType
  publisher := upsertPublisher
  subscriber := upsertSubscriber
  job := upsertJob
  start := insertInstance

/-- Carries out a plan in one transaction. -/
def startUp (plan : StartupPlan) (now : Instant) : Session StartupReceipt :=
  Session.transaction .rollback (plan.carryOut registrar now)

def endHostRuntime (runtime : HostRuntimeId) (now : Instant) : Session Unit :=
  Session.updateOne "end_host_runtime" (.notFound "host runtime" (toString runtime))
    ("UPDATE bus.service_bus_host_runtime SET ended_utc = $2, state = $3 " ++
      "WHERE id_service_bus_host_runtime = $1")
    [.uuid runtime.uuid, .time now, .code ComponentState.stopped.code]

def touchInstance (ref : InstanceRef) (now : Instant) : Session Unit :=
  let (table, idColumn, id) := instanceTable ref
  Session.updateOne "touch_instance" (.notFound "instance" (toString ref))
    s!"UPDATE {table} SET last_activity_utc = $2 WHERE {idColumn} = $1"
    [.uuid id, .time now]

def messageTypeNamed (name : String) : Session MessageTypeId := do
  match ← findMessageType name with
  | some row => return row.id
  | none => throw (.notFound "message type" name)

def registerPublisher (scenario : ScenarioId) (spec : PublisherSpec) : Session Publisher := do
  let messageType ← messageTypeNamed spec.messageType
  upsertPublisher ⟨spec.id, spec.name, scenario, messageType⟩

def registerSubscriber (scenario : ScenarioId) (spec : SubscriberSpec) : Session Subscriber := do
  let messageType ← messageTypeNamed spec.messageType
  upsertSubscriber ⟨spec.id, spec.name, scenario, messageType, spec.policy⟩

def registerJob (scenario : ScenarioId) (spec : JobSpec) : Session Job := do
  let messageType ← spec.messageType.mapM messageTypeNamed
  upsertJob ⟨⟨0⟩, spec.name, scenario, messageType, spec.policy⟩

def messageTypeById (id : MessageTypeId) : Session (Option MessageType) := do
  readRow? messageTypeOfRow (← Session.row? "message_type_by_id"
    "SELECT id_message_type, name, type_name FROM bus.message_type WHERE id_message_type = $1"
    [.int4 id.value])

def loadJob (id : JobId) : Session (Option Job) := do
  readRow? jobOfRow (← Session.row? "load_job"
    s!"SELECT {jobColumns} FROM bus.job WHERE id_job = $1" [.int4 id.value])

/-- The first column of every row. -/
def scalars (operation sql : String) (params : List SqlParam) (α : Type) [Column α] :
    Session (List α) := do
  let rows ← Session.rows operation sql params
  Session.lift (SqlError.toStoreError operation) (rows.mapM fun row => row.first α)

def resolveTargets (scenario : ScenarioId) (messageType : MessageTypeId) :
    Session (List QueueRef) := do
  let params := [.uuid scenario.uuid, .int4 messageType.value]
  let subscribers ← scalars "resolve_subscribers"
    ("SELECT id_subscriber FROM bus.subscriber " ++
      "WHERE id_scenario = $1 AND id_message_type = $2 ORDER BY id_subscriber") params Uuid
  let jobs ← scalars "resolve_jobs"
    ("SELECT id_job FROM bus.job " ++
      "WHERE id_scenario = $1 AND id_message_type = $2 ORDER BY id_job") params Int32
  return subscribers.map (fun id => .subscriber ⟨id⟩) ++ jobs.map fun id => .job ⟨id⟩

end MessageBus.Database
