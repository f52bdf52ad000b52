import MessageBus.Proofs.Run

/-! What the calls of a store leave alone. A registration, a snapshot call or a log call writes to
tables of its own, so that messages and tickets change only by publishing, claims, commits and signs
of life. -/
namespace MessageBus.Store

/-- Every success of an operation ends in a store with the property. -/
def Ends {α : Type} (P : Store → Prop) (outcome : Except StoreError (α × Store)) : Prop :=
  ∀ a t, outcome = .ok (a, t) → P t

section
variable {α β : Type} {P : Store → Prop}

theorem ends_pure {a : α} {t : Store} (h : P t) : Ends P (pure (a, t)) := by
  rintro b u ⟨⟩
  exact h

theorem ends_throw {e : StoreError} : Ends P (throw e : Except StoreError (α × Store)) := by
  rintro b u ⟨⟩

theorem ends_bind {x : Except StoreError β} {f : β → Except StoreError (α × Store)}
    (h : ∀ b, Ends P (f b)) : Ends P (x >>= f) := by
  intro a t ok
  cases x with
  | error e => cases ok
  | ok b => exact h b a t ok

theorem attempt_ends {s : Store} {outcome : Except StoreError (α × Store)} (h : P s)
    (ends : Ends P outcome) : P (s.attempt outcome).2 := by
  match outcome with
  | .ok (a, t) => exact ends a t rfl
  | .error e => exact h

end

/-! The tables that one operation writes to. -/

theorem registerHost_frame (s : Store) (host : Host) :
    (s.registerHost host).2 = { s with hosts := (s.registerHost host).2.hosts } := by
  unfold registerHost
  apply attempt_ends (P := fun t => t = { s with hosts := t.hosts }) rfl
  split
  · exact ends_bind fun _ => ends_pure rfl
  · exact ends_pure rfl

theorem startHostRuntime_frame (s : Store) (runtime : HostRuntime) :
    (s.startHostRuntime runtime).2 =
      { s with runtimes := (s.startHostRuntime runtime).2.runtimes } := by
  unfold startHostRuntime
  apply attempt_ends (P := fun t => t = { s with runtimes := t.runtimes }) rfl
  refine ends_bind fun _ => ?_
  split
  · exact ends_throw
  · exact ends_pure rfl

theorem endHostRuntime_frame (s : Store) (runtime : HostRuntimeId) (now : Instant) :
    (s.endHostRuntime runtime now).2 =
      { s with runtimes := (s.endHostRuntime runtime now).2.runtimes } := by
  unfold endHostRuntime
  apply attempt_ends (P := fun t => t = { s with runtimes := t.runtimes }) rfl
  exact ends_bind fun _ => ends_pure rfl

theorem registerScenario_frame (s : Store) (scenario : Scenario) :
    (s.registerScenario scenario).2 =
      { s with scenarios := (s.registerScenario scenario).2.scenarios } := by
  unfold registerScenario
  apply attempt_ends (P := fun t => t = { s with scenarios := t.scenarios }) rfl
  dsimp only
  split
  · exact ends_throw
  · split
    · exact ends_bind fun _ => ends_pure rfl
    · exact ends_pure rfl

theorem registerMessageType_frame (s : Store) (spec : MessageTypeSpec) :
    (s.registerMessageType spec).2 =
      { s with
        messageTypes := (s.registerMessageType spec).2.messageTypes
        lastMessageType := (s.registerMessageType spec).2.lastMessageType } := by
  unfold registerMessageType
  apply attempt_ends (P := fun t => t =
    { s with messageTypes := t.messageTypes, lastMessageType := t.lastMessageType }) rfl
  split
  · exact ends_bind fun _ => ends_pure rfl
  · exact ends_bind fun _ => ends_pure rfl

theorem putPublisher_frame (s : Store) (row : Publisher) :
    (s.putPublisher row).2 = { s with publishers := (s.putPublisher row).2.publishers } := by
  unfold putPublisher
  apply attempt_ends (P := fun t => t = { s with publishers := t.publishers }) rfl
  refine ends_bind fun _ => ends_bind fun _ => ?_
  split
  · exact ends_bind fun _ => ends_bind fun _ => ends_bind fun _ => ends_pure rfl
  · exact ends_pure rfl

theorem putSubscriber_frame (s : Store) (row : Subscriber) :
    (s.putSubscriber row).2 = { s with subscribers := (s.putSubscriber row).2.subscribers } := by
  unfold putSubscriber
  apply attempt_ends (P := fun t => t = { s with subscribers := t.subscribers }) rfl
  refine ends_bind fun _ => ends_bind fun _ => ?_
  split
  · exact ends_bind fun _ => ends_bind fun _ => ends_bind fun _ => ends_pure rfl
  · exact ends_pure rfl

theorem putJob_frame (s : Store) (row : Job) :
    (s.putJob row).2 =
      { s with jobs := (s.putJob row).2.jobs, lastJob := (s.putJob row).2.lastJob } := by
  unfold putJob
  apply attempt_ends (P := fun t => t = { s with jobs := t.jobs, lastJob := t.lastJob }) rfl
  refine ends_bind fun _ => ?_
  dsimp only
  split
  · refine ends_bind fun _ => ?_
    split
    · exact ends_bind fun _ => ends_pure rfl
    · exact ends_bind fun _ => ends_pure rfl
  · split
    · exact ends_bind fun _ => ends_pure rfl
    · exact ends_bind fun _ => ends_pure rfl

theorem putInstance_frame (s : Store) (record : InstanceRecord) :
    s.putInstance record =
      { s with
        publisherInstances := (s.putInstance record).publisherInstances
        subscriberInstances := (s.putInstance record).subscriberInstances
        jobInstances := (s.putInstance record).jobInstances } := by
  cases record <;> rfl

theorem startInstance_frame (s : Store) (record : InstanceRecord) :
    (s.startInstance record).2 =
      { s with
        publisherInstances := (s.startInstance record).2.publisherInstances
        subscriberInstances := (s.startInstance record).2.subscriberInstances
        jobInstances := (s.startInstance record).2.jobInstances } := by
  unfold startInstance
  split
  · rfl
  · exact putInstance_frame s record

theorem touchInstance_frame (s : Store) (ref : InstanceRef) (now : Instant) :
    (s.touchInstance ref now).2 =
      { s with
        publisherInstances := (s.touchInstance ref now).2.publisherInstances
        subscriberInstances := (s.touchInstance ref now).2.subscriberInstances
        jobInstances := (s.touchInstance ref now).2.jobInstances } := by
  unfold touchInstance
  split
  · cases ref <;> rfl
  · rfl

theorem saveSnapshot_frame (s : Store) (owner : JobInstanceId) (identifier : SnapshotIdentifier)
    (data : Bytes) (now : Instant) :
    (s.saveSnapshot owner identifier data now).2 =
      { s with snapshots := (s.saveSnapshot owner identifier data now).2.snapshots } := by
  unfold saveSnapshot
  apply attempt_ends (P := fun t => t = { s with snapshots := t.snapshots }) rfl
  exact ends_bind fun _ => ends_pure rfl

theorem transferSnapshot_frame (s : Store) (owner : JobInstanceId)
    (identifier : SnapshotIdentifier) (now : Instant) :
    (s.transferSnapshot owner identifier now).2 =
      { s with snapshots := (s.transferSnapshot owner identifier now).2.snapshots } := by
  unfold transferSnapshot
  apply attempt_ends (P := fun t => t = { s with snapshots := t.snapshots }) rfl
  exact ends_bind fun _ => ends_bind fun _ => ends_pure rfl

theorem setStatus_frame (s : Store) (state : ComponentState) (subject : LogSubject) :
    s.setStatus state subject =
      { s with
        runtimes := (s.setStatus state subject).runtimes
        publisherInstances := (s.setStatus state subject).publisherInstances
        subscriberInstances := (s.setStatus state subject).subscriberInstances
        jobInstances := (s.setStatus state subject).jobInstances } := by
  match subject with
  | .hostRuntime _ => rfl
  | .component (.publisher _) => rfl
  | .component (.subscriber _) => rfl
  | .component (.job _) => rfl

/-- The store with a record written to it: the subject has the status that the record carries. -/
def recorded (s : Store) (record : LogRecord) : Store :=
  { record.status.elim s (s.setStatus · record.subject) with logs := s.logs ++ [record] }

/-- A record is written as a whole, or the call fails and nothing is. -/
theorem appendLog_cases (s : Store) (record : LogRecord) :
    s.appendLog record = (.ok (), s.recorded record) ∨
    ∃ e, s.appendLog record = (.error e, s) := by
  unfold appendLog recorded
  cases record.status <;> cases record.message with
  | none =>
    dsimp only
    split
    · exact .inr ⟨_, rfl⟩
    · exact .inl rfl
  | some message =>
    dsimp only
    cases require s.messages "message" message with
    | error e => exact .inr ⟨e, rfl⟩
    | ok =>
      simp only [bind, Except.bind]
      split
      · exact .inr ⟨_, rfl⟩
      · exact .inl rfl

theorem appendLog_frame (s : Store) (record : LogRecord) :
    (s.appendLog record).2 =
      { s with
        runtimes := (s.appendLog record).2.runtimes
        publisherInstances := (s.appendLog record).2.publisherInstances
        subscriberInstances := (s.appendLog record).2.subscriberInstances
        jobInstances := (s.appendLog record).2.jobInstances
        logs := (s.appendLog record).2.logs } := by
  rcases appendLog_cases s record with written | ⟨e, refused⟩
  · rw [written, recorded]
    cases record.status with
    | none => rfl
    | some state =>
      exact congrArg (fun t : Store => { t with logs := s.logs ++ [record] })
        (setStatus_frame s state record.subject)
  · rw [refused]

end MessageBus.Store
