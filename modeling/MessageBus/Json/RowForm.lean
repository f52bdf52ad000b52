import MessageBus.Json.Form
import MessageBus.Log
import MessageBus.Snapshot
import MessageBus.Startup.Plan
import MessageBus.Ticket

/-! The data forms of catalog rows, messages, tickets, snapshots, log records and startup plans. A
snapshot identifier is read from any text, without the checks that a new one has to pass. -/
namespace MessageBus.JsonForm

instance : JsonForm SnapshotIdentifier where
  toJson i := .string i.text
  ofJson? j := (ofJson? j).map SnapshotIdentifier.mk

instance : JsonForm Host where
  toJson h := .ofMembers [("id", toJson h.id), ("name", toJson h.name)]
  ofJson? j := do
    let [id, name] ← j.fields? ["id", "name"] | none
    return ⟨← ofJson? id, ← ofJson? name⟩

instance : JsonForm HostRuntime where
  toJson r := .ofMembers
    [("id", toJson r.id), ("host", toJson r.host), ("user_name", toJson r.userName),
      ("machine_name", toJson r.machineName), ("started_utc", toJson r.started),
      ("ended_utc", toJson r.ended), ("state", toJson r.state)]
  ofJson? j := do
    let [id, host, user, machine, started, ended, state] ← j.fields?
      ["id", "host", "user_name", "machine_name", "started_utc", "ended_utc", "state"] | none
    return ⟨← ofJson? id, ← ofJson? host, ← ofJson? user, ← ofJson? machine, ← ofJson? started,
      ← ofJson? ended, ← ofJson? state⟩

instance : JsonForm Scenario where
  toJson s := .ofMembers [("id", toJson s.id), ("name", toJson s.name)]
  ofJson? j := do
    let [id, name] ← j.fields? ["id", "name"] | none
    return ⟨← ofJson? id, ← ofJson? name⟩

instance : JsonForm MessageTypeSpec where
  toJson s := .ofMembers [("name", toJson s.name), ("type_name", toJson s.typeName)]
  ofJson? j := do
    let [name, typeName] ← j.fields? ["name", "type_name"] | none
    return ⟨← ofJson? name, ← ofJson? typeName⟩

instance : JsonForm MessageType where
  toJson t := .ofMembers
    [("id", toJson t.id), ("name", toJson t.name), ("type_name", toJson t.typeName)]
  ofJson? j := do
    let [id, name, typeName] ← j.fields? ["id", "name", "type_name"] | none
    return ⟨← ofJson? id, ← ofJson? name, ← ofJson? typeName⟩

instance : JsonForm PublisherSpec where
  toJson s := .ofMembers
    [("id", toJson s.id), ("name", toJson s.name), ("message_type", toJson s.messageType)]
  ofJson? j := do
    let [id, name, messageType] ← j.fields? ["id", "name", "message_type"] | none
    return ⟨← ofJson? id, ← ofJson? name, ← ofJson? messageType⟩

instance : JsonForm Publisher where
  toJson p := .ofMembers
    [("id", toJson p.id), ("name", toJson p.name), ("scenario", toJson p.scenario),
      ("message_type", toJson p.messageType)]
  ofJson? j := do
    let [id, name, scenario, messageType] ←
      j.fields? ["id", "name", "scenario", "message_type"] | none
    return ⟨← ofJson? id, ← ofJson? name, ← ofJson? scenario, ← ofJson? messageType⟩

instance : JsonForm SubscriberSpec where
  toJson s := .ofMembers
    [("id", toJson s.id), ("name", toJson s.name), ("message_type", toJson s.messageType),
      ("policy", toJson s.policy)]
  ofJson? j := do
    let [id, name, messageType, policy] ←
      j.fields? ["id", "name", "message_type", "policy"] | none
    return ⟨← ofJson? id, ← ofJson? name, ← ofJson? messageType, ← ofJson? policy⟩

instance : JsonForm Subscriber where
  toJson s := .ofMembers
    [("id", toJson s.id), ("name", toJson s.name), ("scenario", toJson s.scenario),
      ("message_type", toJson s.messageType), ("policy", toJson s.policy)]
  ofJson? j := do
    let [id, name, scenario, messageType, policy] ←
      j.fields? ["id", "name", "scenario", "message_type", "policy"] | none
    return ⟨← ofJson? id, ← ofJson? name, ← ofJson? scenario, ← ofJson? messageType,
      ← ofJson? policy⟩

instance : JsonForm JobSpec where
  toJson s := .ofMembers
    [("name", toJson s.name), ("message_type", toJson s.messageType), ("policy", toJson s.policy)]
  ofJson? j := do
    let [name, messageType, policy] ← j.fields? ["name", "message_type", "policy"] | none
    return ⟨← ofJson? name, ← ofJson? messageType, ← ofJson? policy⟩

instance : JsonForm Job where
  toJson s := .ofMembers
    [("id", toJson s.id), ("name", toJson s.name), ("scenario", toJson s.scenario),
      ("message_type", toJson s.messageType), ("policy", toJson s.policy)]
  ofJson? j := do
    let [id, name, scenario, messageType, policy] ←
      j.fields? ["id", "name", "scenario", "message_type", "policy"] | none
    return ⟨← ofJson? id, ← ofJson? name, ← ofJson? scenario, ← ofJson? messageType,
      ← ofJson? policy⟩

instance {ι κ : Type} [JsonForm ι] [JsonForm κ] : JsonForm (Instance ι κ) where
  toJson i := .ofMembers
    [("id", toJson i.id), ("component", toJson i.component), ("host_runtime", toJson i.hostRuntime),
      ("created_utc", toJson i.created), ("last_activity_utc", toJson i.lastActivity),
      ("state", toJson i.state)]
  ofJson? j := do
    let [id, component, runtime, created, lastActivity, state] ← j.fields?
      ["id", "component", "host_runtime", "created_utc", "last_activity_utc", "state"] | none
    return ⟨← ofJson? id, ← ofJson? component, ← ofJson? runtime, ← ofJson? created,
      ← ofJson? lastActivity, ← ofJson? state⟩

instance : JsonForm InstanceRecord where
  toJson
    | .publisher row => .ofMembers [("publisher", toJson row)]
    | .subscriber row => .ofMembers [("subscriber", toJson row)]
    | .job row => .ofMembers [("job", toJson row)]
  ofJson? j := do
    match ← j.choice? with
    | ("publisher", some row) => return .publisher (← ofJson? row)
    | ("subscriber", some row) => return .subscriber (← ofJson? row)
    | ("job", some row) => return .job (← ofJson? row)
    | _ => none

instance : JsonForm InstanceRef where
  toJson
    | .publisher id => .ofMembers [("publisher", toJson id)]
    | .subscriber id => .ofMembers [("subscriber", toJson id)]
    | .job id => .ofMembers [("job", toJson id)]
  ofJson? j := do
    match ← j.choice? with
    | ("publisher", some id) => return .publisher (← ofJson? id)
    | ("subscriber", some id) => return .subscriber (← ofJson? id)
    | ("job", some id) => return .job (← ofJson? id)
    | _ => none

instance : JsonForm TicketKind where
  toJson
    | .subscriber => .string "subscriber"
    | .tempQueue => .string "temp_queue"
  ofJson? j := do
    match ← j.plainChoice? with
    | "subscriber" => some .subscriber
    | "temp_queue" => some .tempQueue
    | _ => none

instance : JsonForm QueueRef where
  toJson
    | .subscriber id => .ofMembers [("subscriber", toJson id)]
    | .job id => .ofMembers [("job", toJson id)]
  ofJson? j := do
    match ← j.choice? with
    | ("subscriber", some id) => return .subscriber (← ofJson? id)
    | ("job", some id) => return .job (← ofJson? id)
    | _ => none

instance : JsonForm Consumer where
  toJson
    | .subscriber id runner => .ofMembers
        [("subscriber", .ofMembers [("subscriber", toJson id), ("instance", toJson runner)])]
    | .job id runner => .ofMembers
        [("job", .ofMembers [("job", toJson id), ("instance", toJson runner)])]
  ofJson? j := do
    match ← j.choice? with
    | ("subscriber", some fields) =>
      let [id, runner] ← fields.memberFields? ["subscriber", "instance"] | none
      return .subscriber (← ofJson? id) (← ofJson? runner)
    | ("job", some fields) =>
      let [id, runner] ← fields.memberFields? ["job", "instance"] | none
      return .job (← ofJson? id) (← ofJson? runner)
    | _ => none

instance : JsonForm Message where
  toJson m := .ofMembers
    [("id", toJson m.id), ("message_type", toJson m.messageType),
      ("publisher_instance", toJson m.publisherInstance),
      ("previous_message", toJson m.previousMessage), ("created_utc", toJson m.created),
      ("valid_to_utc", toJson m.validTo), ("is_recovery", toJson m.isRecovery),
      ("data", toJson m.data)]
  ofJson? j := do
    let [id, messageType, publisherInstance, previous, created, validTo, isRecovery, data] ←
      j.fields? ["id", "message_type", "publisher_instance", "previous_message", "created_utc",
        "valid_to_utc", "is_recovery", "data"] | none
    return ⟨← ofJson? id, ← ofJson? messageType, ← ofJson? publisherInstance, ← ofJson? previous,
      ← ofJson? created, ← ofJson? validTo, ← ofJson? isRecovery, ← ofJson? data⟩

instance : JsonForm Ticket where
  toJson t := .ofMembers
    [("id", toJson t.id), ("queue", toJson t.queue), ("message", toJson t.message),
      ("owner_instance", toJson t.owner), ("last_access_utc", toJson t.lastAccess),
      ("state", toJson t.state), ("snapshot", toJson t.snapshot),
      ("retry_count", toJson t.retryCount), ("delayed_to_utc", toJson t.delayedTo),
      ("concurrency_token", toJson t.token)]
  ofJson? j := do
    let [id, queue, message, owner, access, state, snapshot, retryCount, delayedTo, token] ←
      j.fields? ["id", "queue", "message", "owner_instance", "last_access_utc", "state",
        "snapshot", "retry_count", "delayed_to_utc", "concurrency_token"] | none
    return ⟨← ofJson? id, ← ofJson? queue, ← ofJson? message, ← ofJson? owner, ← ofJson? access,
      ← ofJson? state, ← ofJson? snapshot, ← ofJson? retryCount, ← ofJson? delayedTo,
      ← ofJson? token⟩

instance : JsonForm Snapshot where
  toJson s := .ofMembers
    [("identifier", toJson s.identifier), ("owner", toJson s.owner), ("data", toJson s.data),
      ("created_utc", toJson s.created), ("updated_utc", toJson s.updated)]
  ofJson? j := do
    let [identifier, owner, data, created, updated] ←
      j.fields? ["identifier", "owner", "data", "created_utc", "updated_utc"] | none
    return ⟨← ofJson? identifier, ← ofJson? owner, ← ofJson? data, ← ofJson? created,
      ← ofJson? updated⟩

instance : JsonForm LogSubject where
  toJson
    | .hostRuntime id => .ofMembers [("host_runtime", toJson id)]
    | .component ref => .ofMembers [("instance", toJson ref)]
  ofJson? j := do
    match ← j.choice? with
    | ("host_runtime", some id) => return .hostRuntime (← ofJson? id)
    | ("instance", some ref) => return .component (← ofJson? ref)
    | _ => none

instance : JsonForm LogRecord where
  toJson r := .ofMembers
    [("id", toJson r.id), ("subject", toJson r.subject), ("level", toJson r.level),
      ("text", toJson r.text), ("message", toJson r.message), ("status", toJson r.status),
      ("correlation_id", toJson r.correlationId), ("created_utc", toJson r.created)]
  ofJson? j := do
    let [id, subject, level, text, message, status, correlationId, created] ← j.fields?
      ["id", "subject", "level", "text", "message", "status", "correlation_id", "created_utc"]
      | none
    return ⟨← ofJson? id, ← ofJson? subject, ← ofJson? level, ← ofJson? text, ← ofJson? message,
      ← ofJson? status, ← ofJson? correlationId, ← ofJson? created⟩

instance : JsonForm PlannedInstance where
  toJson
    | .publisher id runner => .ofMembers
        [("publisher", .ofMembers [("publisher", toJson id), ("instance", toJson runner)])]
    | .subscriber id runner => .ofMembers
        [("subscriber", .ofMembers [("subscriber", toJson id), ("instance", toJson runner)])]
    | .job name runner => .ofMembers
        [("job", .ofMembers [("job", toJson name), ("instance", toJson runner)])]
  ofJson? j := do
    match ← j.choice? with
    | ("publisher", some fields) =>
      let [id, runner] ← fields.memberFields? ["publisher", "instance"] | none
      return .publisher (← ofJson? id) (← ofJson? runner)
    | ("subscriber", some fields) =>
      let [id, runner] ← fields.memberFields? ["subscriber", "instance"] | none
      return .subscriber (← ofJson? id) (← ofJson? runner)
    | ("job", some fields) =>
      let [name, runner] ← fields.memberFields? ["job", "instance"] | none
      return .job (← ofJson? name) (← ofJson? runner)
    | _ => none

instance : JsonForm StartupPlan where
  toJson p := .ofMembers
    [("host", toJson p.host), ("runtime_id", toJson p.runtime), ("user_name", toJson p.userName),
      ("machine_name", toJson p.machineName), ("scenario", toJson p.scenario),
      ("message_types", toJson p.messageTypes), ("publishers", toJson p.publishers),
      ("subscribers", toJson p.subscribers), ("jobs", toJson p.jobs),
      ("instances", toJson p.instances)]
  ofJson? j := do
    let [host, runtime, user, machine, scenario, types, publishers, subscribers, jobs, instances] ←
      j.fields? ["host", "runtime_id", "user_name", "machine_name", "scenario", "message_types",
        "publishers", "subscribers", "jobs", "instances"] | none
    return ⟨← ofJson? host, ← ofJson? runtime, ← ofJson? user, ← ofJson? machine,
      ← ofJson? scenario, ← ofJson? types, ← ofJson? publishers, ← ofJson? subscribers,
      ← ofJson? jobs, ← ofJson? instances⟩

end MessageBus.JsonForm
