import MessageBus.Database.Catalog
import MessageBus.Log
import MessageBus.Snapshot

/-! Snapshots and logs in a database. -/
namespace MessageBus.Database

def snapshotColumns : String :=
  "identifier, id_job_instance, data, created_utc, updated_utc"

/-- An identifier that comes back is checked like a new one. -/
def snapshotOfRow (row : SqlRow) : Except StoreError Snapshot := do
  let read := cell row fun reason => s!"failed to read snapshot row: {reason}"
  let text ← read String "identifier"
  let owner ← read Uuid "id_job_instance"
  let data ← read Bytes "data"
  let created ← read Instant "created_utc"
  let updated ← read Instant "updated_utc"
  let identifier ← (SnapshotIdentifier.ofText text).mapError .domain
  return ⟨identifier, ⟨owner⟩, data, created, updated⟩

/-- Inserts a snapshot, or sets all of it but the time of the first save. -/
def saveSnapshot (owner : JobInstanceId) (identifier : SnapshotIdentifier) (data : Bytes)
    (now : Instant) : Session Snapshot := do
  readRow snapshotOfRow (← Session.row "save_snapshot"
    (s!"INSERT INTO bus.snapshot ({snapshotColumns}) VALUES ($1, $2, $3, $4, $4) " ++
      "ON CONFLICT (identifier) DO UPDATE SET id_job_instance = EXCLUDED.id_job_instance, " ++
      s!"data = EXCLUDED.data, updated_utc = EXCLUDED.updated_utc RETURNING {snapshotColumns}")
    [.text identifier.text, .uuid owner.uuid, .bytes data, .time now])

def transferSnapshot (owner : JobInstanceId) (identifier : SnapshotIdentifier) (now : Instant) :
    Session Unit :=
  Session.updateOne "transfer_snapshot" (.notFound "snapshot" identifier.text)
    "UPDATE bus.snapshot SET id_job_instance = $2, updated_utc = $3 WHERE identifier = $1"
    [.text identifier.text, .uuid owner.uuid, .time now]

def loadSnapshot (identifier : SnapshotIdentifier) : Session (Option Snapshot) := do
  readRow? snapshotOfRow (← Session.row? "load_snapshot"
    s!"SELECT {snapshotColumns} FROM bus.snapshot WHERE identifier = $1"
    [.text identifier.text])

def deleteSnapshot (identifier : SnapshotIdentifier) : Session Bool := do
  let reply ← Session.execute "delete_snapshot"
    "DELETE FROM bus.snapshot WHERE identifier = $1" [.text identifier.text]
  if reply.affected = 0 then return false
  ExceptT.mk (pure (expectOne "delete_snapshot" reply.affected))
  return true

/-- Where the records of a subject and its present state are. -/
structure LogPlace where
  /-- The table of the records. -/
  log : String
  /-- The table of the subject. -/
  owner : String
  /-- The column of the subject's identifier, in both tables. -/
  idColumn : String
  id : Uuid

def LogPlace.ofSubject : LogSubject → LogPlace
  | .hostRuntime id =>
    ⟨"bus.service_bus_log", "bus.service_bus_host_runtime", "id_service_bus_host_runtime",
      id.uuid⟩
  | .component ref =>
    let (table, idColumn, id) := instanceTable ref
    ⟨table ++ "_log", table, idColumn, id⟩

def insertLog (place : LogPlace) (r : LogRecord) : Session Unit :=
  Session.executeOne "insert_log"
    (s!"INSERT INTO {place.log} ( id_log, {place.idColumn}, level, text, id_message, status, " ++
      "correlation_id, created_utc ) VALUES ($1, $2, $3, $4, $5, $6, $7, $8)")
    [.uuid r.id.uuid, .uuid place.id, .code r.level.code, .text r.text,
      .optional (fun id => .uuid id.uuid) r.message, .optional (fun s => .code s.code) r.status,
      .optional .text r.correlationId, .time r.created]

/-- Writes a record and the status that it carries in one transaction. -/
def appendLog (r : LogRecord) : Session Unit :=
  let place := LogPlace.ofSubject r.subject
  Session.transaction .abandon do
    insertLog place r
    if let some status := r.status then
      Session.executeOne "update_status"
        s!"UPDATE {place.owner} SET state = $2 WHERE {place.idColumn} = $1"
        [.uuid place.id, .code status.code]

def levelOfColumn (code : Int16) : Except StoreError LogLevel :=
  match LogLevel.ofCode? code.toInt with
  | some level => .ok level
  | none => .error (.serialization s!"unknown log level {code.toInt}")

def componentStateOfColumn (code : Int16) : Except StoreError ComponentState :=
  (ComponentState.ofCode code.toInt).mapError .domain

def logOfRow (subject : LogSubject) (row : SqlRow) : Except StoreError LogRecord := do
  let read := cell row fun reason => s!"failed to read log row: {reason}"
  let level ← read Int16 "level"
  let status ← read (Option Int16) "status"
  let message ← read (Option Uuid) "id_message"
  let created ← read Instant "created_utc"
  return {
    id := ⟨← read Uuid "id_log"⟩
    subject
    level := ← levelOfColumn level
    text := ← read String "text"
    message := message.map Key.mk
    status := ← status.mapM componentStateOfColumn
    correlationId := ← read (Option String) "correlation_id"
    created }

def listLogs (subject : LogSubject) : Session (List LogRecord) := do
  let place := LogPlace.ofSubject subject
  let rows ← Session.rows "list_logs"
    ("SELECT id_log, level, text, id_message, status, correlation_id, created_utc " ++
      s!"FROM {place.log} WHERE {place.idColumn} = $1 ORDER BY created_utc, id_log")
    [.uuid place.id]
  ExceptT.mk (pure (rows.mapM (logOfRow subject)))

def currentState (subject : LogSubject) : Session (Option ComponentState) := do
  let place := LogPlace.ofSubject subject
  let row? ← Session.row? "current_state"
    s!"SELECT state FROM {place.owner} WHERE {place.idColumn} = $1" [.uuid place.id]
  let code? ← Session.lift (SqlError.toStoreError "current_state")
    (row?.mapM fun row => row.first Int16)
  ExceptT.mk (pure (code?.mapM componentStateOfColumn))

end MessageBus.Database
