import MessageBus.Proofs.TicketStep

/-! Calls that fail. A call that ends with an error leaves the store as it was, with one exception:
the start of an instance that is there already is reported as a fault, and has yet replaced its row. -/
namespace MessageBus.Store

/-- The operation changes the store only if it succeeds. -/
def KeepsOnError {α : Type} (s : Store) (result : Result α) : Prop :=
  ∀ e, result.1 = .error e → result.2 = s

section
variable {α : Type} {s : Store}

theorem keepsOnError_attempt (outcome : Except StoreError (α × Store)) :
    KeepsOnError s (s.attempt outcome) :=
  fun _ failed => attempt_unchanged failed

theorem keepsOnError_ok (a : α) (t : Store) : KeepsOnError s (.ok a, t) := by
  rintro e ⟨⟩

theorem keepsOnError_refused (e : StoreError) : KeepsOnError s ((.error e, s) : Result α) :=
  fun _ _ => rfl

end

section
variable (s : Store)

theorem startUp_keepsOnError (plan : StartupPlan) (now : Instant) :
    KeepsOnError s (s.startUp plan now) := by
  unfold startUp
  split
  · exact keepsOnError_ok _ _
  · exact keepsOnError_refused _

theorem registerPublisher_keepsOnError (scenario : ScenarioId) (spec : PublisherSpec) :
    KeepsOnError s (s.registerPublisher scenario spec) := by
  unfold registerPublisher
  split
  · exact keepsOnError_refused _
  · exact keepsOnError_attempt _

theorem registerSubscriber_keepsOnError (scenario : ScenarioId) (spec : SubscriberSpec) :
    KeepsOnError s (s.registerSubscriber scenario spec) := by
  unfold registerSubscriber
  split
  · exact keepsOnError_refused _
  · exact keepsOnError_attempt _

theorem registerJob_keepsOnError (scenario : ScenarioId) (spec : JobSpec) :
    KeepsOnError s (s.registerJob scenario spec) := by
  unfold registerJob
  split
  · exact keepsOnError_refused _
  · exact keepsOnError_attempt _

theorem touchInstance_keepsOnError (ref : InstanceRef) (now : Instant) :
    KeepsOnError s (s.touchInstance ref now) := by
  unfold touchInstance
  split
  · exact keepsOnError_ok _ _
  · exact keepsOnError_refused _

theorem commit_keepsOnError (fresh : Fresh) (consumer : Consumer) (ticket : TicketId)
    (token : ConcurrencyToken) (update : TicketUpdate) (now : Instant) :
    KeepsOnError s (s.commit fresh consumer ticket token update now) := by
  unfold commit
  split
  · exact keepsOnError_refused _
  · split <;> exact keepsOnError_ok _ _

theorem heartbeat_keepsOnError (consumer : Consumer) (ticket : TicketId)
    (token : ConcurrencyToken) (now : Instant) :
    KeepsOnError s (s.heartbeat consumer ticket token now) := by
  unfold heartbeat
  split <;> exact keepsOnError_ok _ _

variable {s}

/-- A claim writes before it looks for the message, which is always there. -/
theorem tryClaim_keepsOnError (messages : Referenced s) (fresh : Fresh) (candidate : Ticket)
    (consumer : Consumer) (timeout : Duration) (now : Instant) :
    KeepsOnError s (s.tryClaim fresh candidate consumer timeout now) := by
  rcases tryClaim_cases s fresh candidate consumer timeout now with
    ⟨row, queue, stored, accepted⟩ | refused | lost
  · obtain ⟨message, there⟩ := messages candidate.id row stored
    rw [tryClaim_of_accepted queue stored accepted, require_eq_ok_iff.2 there]
    exact keepsOnError_ok _ _
  · rw [refused]
    exact keepsOnError_refused _
  · rw [lost]
    exact keepsOnError_ok _ _

/-- Every call but the start of an instance. -/
theorem perform_keepsOnError (messages : Referenced s) {call : Call}
    (other : ∀ record, call ≠ .startInstance record) (fresh : Fresh) :
    KeepsOnError s (s.perform fresh call) := by
  cases call with
  | startInstance record => exact absurd rfl (other record)
  | startUp plan now => exact startUp_keepsOnError s plan now
  | registerPublisher scenario spec => exact registerPublisher_keepsOnError s scenario spec
  | registerSubscriber scenario spec => exact registerSubscriber_keepsOnError s scenario spec
  | registerJob scenario spec => exact registerJob_keepsOnError s scenario spec
  | touchInstance ref now => exact touchInstance_keepsOnError s ref now
  | tryClaim candidate consumer timeout now =>
    exact tryClaim_keepsOnError messages fresh candidate consumer timeout now
  | commit consumer ticket token update now =>
    exact commit_keepsOnError s fresh consumer ticket token update now
  | heartbeat consumer ticket token now => exact heartbeat_keepsOnError s consumer ticket token now
  | registerHost | startHostRuntime | endHostRuntime | registerScenario | registerMessageType
  | publish | saveSnapshot | transferSnapshot | appendLog => exact keepsOnError_attempt _
  | messageTypeByName | messageTypeById | loadSubscriber | loadJob | resolveTargets
  | findNextFifo | findNextNonFifo | loadTicket | loadMessage | ticketsForMessage
  | countByState | loadSnapshot | deleteSnapshot | listLogs | currentState =>
    exact keepsOnError_ok _ _

end

/-! The start of an instance. -/

/-- The row of an instance. -/
def instance? (s : Store) : InstanceRef → Option InstanceRecord
  | .publisher id => (s.publisherInstances.get? id).map .publisher
  | .subscriber id => (s.subscriberInstances.get? id).map .subscriber
  | .job id => (s.jobInstances.get? id).map .job

section
variable {s : Store} {record : InstanceRecord}

theorem hasInstance_eq (ref : InstanceRef) : s.hasInstance ref = (s.instance? ref).isSome := by
  cases ref <;> simp [hasInstance, instance?, Table.contains]

theorem putInstance_eq_self_iff : s.putInstance record = s ↔ s.instance? record.ref = some record := by
  cases record with
  | publisher row =>
    have whole : s.putInstance (.publisher row) = s ↔
        s.publisherInstances.insert row.id row = s.publisherInstances := by
      cases s
      simp [putInstance]
    simp [whole, Table.insert_eq_self_iff, instance?, InstanceRecord.ref]
  | subscriber row =>
    have whole : s.putInstance (.subscriber row) = s ↔
        s.subscriberInstances.insert row.id row = s.subscriberInstances := by
      cases s
      simp [putInstance]
    simp [whole, Table.insert_eq_self_iff, instance?, InstanceRecord.ref]
  | job row =>
    have whole : s.putInstance (.job row) = s ↔
        s.jobInstances.insert row.id row = s.jobInstances := by
      cases s
      simp [putInstance]
    simp [whole, Table.insert_eq_self_iff, instance?, InstanceRecord.ref]

theorem startInstance_of_missing {e : StoreError} (missing : s.requireParts record = .error e) :
    s.startInstance record = (.error e, s) := by
  rw [startInstance, missing]

theorem startInstance_of_parts (parts : s.requireParts record = .ok ()) :
    s.startInstance record =
      (if s.hasInstance record.ref then .error (.integrity "insert_instance" 1 0) else .ok (),
        s.putInstance record) := by
  rw [startInstance, parts]

/-- A start that fails changes the store exactly when the instance is there with another row. -/
theorem startInstance_changes_iff {e : StoreError} (failed : (s.startInstance record).1 = .error e) :
    (s.startInstance record).2 ≠ s ↔ s.requireParts record = .ok () ∧
      ∃ stored, s.instance? record.ref = some stored ∧ stored ≠ record := by
  cases parts : s.requireParts record with
  | error missing =>
    rw [startInstance_of_missing parts]
    simp
  | ok =>
    rw [startInstance_of_parts parts] at failed ⊢
    rw [ne_eq, putInstance_eq_self_iff]
    cases there : s.instance? record.ref with
    | none =>
      rw [hasInstance_eq, there] at failed
      cases failed
    | some stored => simp

end

/-- A call that fails leaves the store as it was, unless it starts an instance that is there with
another row. That row is then replaced although the call reports that nothing was written. -/
theorem failed_call_changes_iff {steps : List Step} {step : Step} {e : StoreError}
    (failed : step.answer (run .empty steps) = .error e) :
    (run .empty (steps ++ [step]) ≠ run .empty steps ↔
      ∃ record stored, step.call = .startInstance record ∧
        (run .empty steps).requireParts record = .ok () ∧
        (run .empty steps).instance? record.ref = some stored ∧ stored ≠ record) ∧
    ∀ record, step.call = .startInstance record →
      (run .empty steps).requireParts record = .ok () →
      e = .integrity "insert_instance" 1 0 ∧
        run .empty (steps ++ [step]) = (run .empty steps).putInstance record := by
  have messages := referenced_run steps
  rw [run_append]
  generalize run .empty steps = s at *
  obtain ⟨fresh, call⟩ := step
  by_cases start : ∃ record, call = .startInstance record
  · obtain ⟨record, rfl⟩ := start
    constructor
    · refine (startInstance_changes_iff failed).trans ⟨?_, ?_⟩
      · rintro ⟨parts, stored, there, other⟩
        exact ⟨record, stored, rfl, parts, there, other⟩
      · rintro ⟨_, stored, ⟨⟩, parts, there, other⟩
        exact ⟨parts, stored, there, other⟩
    · rintro _ ⟨⟩ parts
      have done := startInstance_of_parts parts
      refine ⟨?_, congrArg Prod.snd done⟩
      have answer := (congrArg Prod.fst done).symm.trans failed
      dsimp only at answer
      split at answer <;> cases answer
      rfl
  · have other : ∀ record, call ≠ .startInstance record := fun record same => start ⟨record, same⟩
    have kept := perform_keepsOnError messages other fresh e failed
    constructor
    · refine iff_of_false (not_not_intro kept) ?_
      rintro ⟨record, -, same, -⟩
      exact other record same
    · intro record same
      exact absurd same (other record)

/-- The publisher's instance reports that it is running. -/
def runningPublisher : List Step := oneTicket ++ [⟨freshFrom 2000, .appendLog
  ⟨⟨.ofNat 10⟩, .component (.publisher ⟨.ofNat 6⟩), .information, "up", none, some .running, none, default⟩⟩]

/-- A second start of that instance. -/
def startedAgain : Step :=
  ⟨freshFrom 3000, .startInstance (.publisher (.starting ⟨.ofNat 6⟩ ⟨.ofNat 4⟩ ⟨.ofNat 2⟩ default))⟩

theorem failed_call_changes_iff_startedAgain :
    startedAgain.answer (run .empty runningPublisher) = .error (.integrity "insert_instance" 1 0) ∧
    run .empty (runningPublisher ++ [startedAgain]) = (run .empty runningPublisher).putInstance
      (.publisher (.starting ⟨.ofNat 6⟩ ⟨.ofNat 4⟩ ⟨.ofNat 2⟩ default)) := by
  have failed : startedAgain.answer (run .empty runningPublisher) =
      .error (.integrity "insert_instance" 1 0) := rfl
  exact ⟨failed, ((failed_call_changes_iff failed).2 _ rfl rfl).2⟩

/-- The failed start takes the instance back from running to starting. -/
theorem failed_start_resets_status :
    startedAgain.answer (run .empty runningPublisher) = .error (.integrity "insert_instance" 1 0) ∧
    (run .empty runningPublisher).status? (.component (.publisher ⟨.ofNat 6⟩)) = some .running ∧
    (run .empty (runningPublisher ++ [startedAgain])).status? (.component (.publisher ⟨.ofNat 6⟩)) =
      some .starting ∧
    run .empty (runningPublisher ++ [startedAgain]) ≠ run .empty runningPublisher := by
  have before : (run .empty runningPublisher).status? (.component (.publisher ⟨.ofNat 6⟩)) =
      some .running := by decide +kernel
  have after : (run .empty (runningPublisher ++ [startedAgain])).status?
      (.component (.publisher ⟨.ofNat 6⟩)) = some .starting := by decide +kernel
  refine ⟨rfl, before, after, ?_⟩
  intro same
  rw [same, before] at after
  cases after

end MessageBus.Store
