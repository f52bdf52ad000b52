import MessageBus.Store.Basic

/-! Snapshots and logs of a store. -/
namespace MessageBus.Store

/-- Sets the data and the owner of a snapshot; the time of the first save stays. -/
def saveSnapshot (s : Store) (owner : JobInstanceId) (identifier : SnapshotIdentifier)
    (data : Bytes) (now : Instant) : Result Snapshot :=
  s.attempt do
    let _ ← require s.jobInstances "job instance" owner
    let created := ((s.snapshots.get? identifier).map Snapshot.created).getD now
    let row : Snapshot := ⟨identifier, owner, data, created, now⟩
    return (row, { s with snapshots := s.snapshots.insert identifier row })

/-- Gives a snapshot to another instance; the data stay. -/
def transferSnapshot (s : Store) (owner : JobInstanceId) (identifier : SnapshotIdentifier)
    (now : Instant) : Result Unit :=
  s.attempt do
    let _ ← require s.jobInstances "job instance" owner
    let row ← require s.snapshots "snapshot" identifier
    return ((), { s with
      snapshots := s.snapshots.insert identifier { row with owner, updated := now } })

/-- Says whether there was one. -/
def deleteSnapshot (s : Store) (identifier : SnapshotIdentifier) : Result Bool :=
  (.ok (s.snapshots.contains identifier), { s with snapshots := s.snapshots.erase identifier })

def status? (s : Store) : LogSubject → Option ComponentState
  | .hostRuntime id => (s.runtimes.get? id).map HostRuntime.state
  | .component (.publisher id) => (s.publisherInstances.get? id).map Instance.state
  | .component (.subscriber id) => (s.subscriberInstances.get? id).map Instance.state
  | .component (.job id) => (s.jobInstances.get? id).map Instance.state

def setStatus (s : Store) (state : ComponentState) : LogSubject → Store
  | .hostRuntime id => { s with runtimes := s.runtimes.update id ({ · with state }) }
  | .component (.publisher id) =>
    { s with publisherInstances := s.publisherInstances.update id ({ · with state }) }
  | .component (.subscriber id) =>
    { s with subscriberInstances := s.subscriberInstances.update id ({ · with state }) }
  | .component (.job id) =>
    { s with jobInstances := s.jobInstances.update id ({ · with state }) }

/-- Writes a record, and the status that it carries. -/
def appendLog (s : Store) (record : LogRecord) : Result Unit :=
  s.attempt do
    if let some message := record.message then
      let _ ← require s.messages "message" message
    if (s.status? record.subject).isNone then
      throw (.notFound "log subject" (toString record.subject))
    let moved := match record.status with
      | some state => s.setStatus state record.subject
      | none => s
    return ((), { moved with logs := s.logs ++ [record] })

/-- The records of a subject by time; those of one instant stay in the order of writing. -/
def listLogs (s : Store) (subject : LogSubject) : List LogRecord :=
  (s.logs.filter fun record => record.subject == subject).mergeSort fun a b =>
    decide (a.created ≤ b.created)

end MessageBus.Store
