import MessageBus.Proofs.Failure

/-! The owners of tickets. A claim writes its claimant as the owner without looking the instance up,
and compares the claimant's queue with that of the caller's copy of the ticket; and the start of an
instance that is there already gives its row to another component. These are the only ways in which
a ticket comes to be owned by anything but a registered instance of its own queue. -/
namespace MessageBus

/-- The consumer that an instance is; an instance of a publisher is none. -/
def InstanceRecord.consumer? : InstanceRecord → Option Consumer
  | .publisher _ => none
  | .subscriber row => some (.subscriber row.component row.id)
  | .job row => some (.job row.component row.id)

namespace Store

/-- Whether an instance of the component of a queue is registered under an identifier. -/
def hasRunner (s : Store) (queue : QueueRef) (runner : Uuid) : Bool :=
  match queue with
  | .subscriber id => (s.subscriberInstances.get? ⟨runner⟩).any fun row => row.component == id
  | .job id => (s.jobInstances.get? ⟨runner⟩).any fun row => row.component == id

/-- Every ticket that has an owner is owned by a registered instance of its queue. -/
def OwnersRegistered (s : Store) : Prop :=
  ∀ id row, s.tickets.get? id = some row →
    ∀ owner, row.owner = some owner → s.hasRunner row.queue owner = true

/-- The steps that give a ticket an owner that is no registered instance of its queue. -/
inductive Strays (s : Store) : Step → Prop
  /-- A claim goes through, and the claimant is no instance of the queue of the stored ticket. -/
  | claim {fresh candidate consumer timeout now row}
      (queue : candidate.queue = consumer.queue)
      (stored : s.tickets.get? candidate.id = some row)
      (accepted : row.acceptsClaim candidate.token timeout now = true)
      (stranger : s.hasRunner row.queue consumer.instanceUuid = false) :
      Strays s ⟨fresh, .tryClaim candidate consumer timeout now⟩
  /-- The owner of a ticket is started again, as an instance of another component. -/
  | start {fresh record consumer id row}
      (parts : s.requireParts record = .ok ())
      (is : record.consumer? = some consumer)
      (stored : s.tickets.get? id = some row)
      (owner : row.owner = some consumer.instanceUuid)
      (kind : consumer.queue.kind = row.queue.kind)
      (other : consumer.queue ≠ row.queue) :
      Strays s ⟨fresh, .startInstance record⟩

/-! Registered instances stay what they are. -/

def KeepsRunners (s t : Store) : Prop :=
  ∀ queue runner, s.hasRunner queue runner = true → t.hasRunner queue runner = true

namespace KeepsRunners

theorem refl (s : Store) : KeepsRunners s s := fun _ _ h => h

theorem trans {s t u : Store} (h : KeepsRunners s t) (k : KeepsRunners t u) : KeepsRunners s u :=
  fun queue runner there => k queue runner (h queue runner there)

theorem of_components {s t : Store}
    (subscribers : ∀ id, (t.subscriberInstances.get? id).map Instance.component =
      (s.subscriberInstances.get? id).map Instance.component)
    (jobs : ∀ id, (t.jobInstances.get? id).map Instance.component =
      (s.jobInstances.get? id).map Instance.component) : KeepsRunners s t := by
  intro queue runner there
  have any_map {κ ι : Type} [DecidableEq κ] (row : Option (Instance ι κ)) (id : κ) :
      (row.any fun row => row.component == id) = (row.map Instance.component).any (· == id) := by
    cases row <;> rfl
  cases queue with
  | subscriber id =>
    simp only [hasRunner, any_map] at there ⊢
    rwa [subscribers]
  | job id =>
    simp only [hasRunner, any_map] at there ⊢
    rwa [jobs]

theorem of_frame {s t u : Store} (frame : t = u)
    (subscribers : u.subscriberInstances = s.subscriberInstances)
    (jobs : u.jobInstances = s.jobInstances) : KeepsRunners s t := by
  subst frame
  refine of_components ?_ ?_
  · intro id
    rw [subscribers]
  · intro id
    rw [jobs]

/-- An instance whose row is written to stays an instance of its component. -/
theorem map_component_update {ι κ : Type} [DecidableEq ι] (table : Table ι (Instance ι κ))
    {f : Instance ι κ → Instance ι κ} (same : ∀ row, (f row).component = row.component)
    (key id : ι) :
    ((table.update key f).get? id).map Instance.component =
      (table.get? id).map Instance.component := by
  rw [Table.get?_update]
  split
  · cases table.get? id with
    | none => rfl
    | some row => exact congrArg some (same row)
  · rfl

theorem touchInstance (s : Store) (ref : InstanceRef) (now : Instant) :
    KeepsRunners s (s.touchInstance ref now).2 := by
  unfold Store.touchInstance
  split
  · cases ref with
    | publisher id => exact of_components (fun _ => rfl) fun _ => rfl
    | subscriber id =>
      have same := map_component_update s.subscriberInstances
        (f := ({ · with lastActivity := now })) (fun _ => rfl) id
      exact of_components same fun _ => rfl
    | job id =>
      have same := map_component_update s.jobInstances
        (f := ({ · with lastActivity := now })) (fun _ => rfl) id
      exact of_components (fun _ => rfl) same
  · exact refl s

theorem setStatus (s : Store) (state : ComponentState) (subject : LogSubject) :
    KeepsRunners s (s.setStatus state subject) := by
  match subject with
  | .hostRuntime _ => exact of_components (fun _ => rfl) fun _ => rfl
  | .component (.publisher _) => exact of_components (fun _ => rfl) fun _ => rfl
  | .component (.subscriber id) =>
    have same := map_component_update s.subscriberInstances (f := ({ · with state }))
      (fun _ => rfl) id
    exact of_components same fun _ => rfl
  | .component (.job id) =>
    have same := map_component_update s.jobInstances (f := ({ · with state })) (fun _ => rfl) id
    exact of_components (fun _ => rfl) same

theorem appendLog (s : Store) (record : LogRecord) : KeepsRunners s (s.appendLog record).2 := by
  rcases appendLog_cases s record with written | ⟨e, refused⟩
  · rw [written]
    unfold recorded
    cases record.status with
    | none => exact of_frame rfl rfl rfl
    | some state => exact setStatus s state record.subject
  · rw [refused]
    exact refl s

end KeepsRunners

/-- An instance that is put in is the one under its identifier. -/
theorem any_component_insert {kind : RowKind} {κ : Type} [DecidableEq κ]
    (table : Table (Key kind) (Instance (Key kind) κ)) (row : Instance (Key kind) κ) (runner : Uuid)
    (component : κ) :
    (((table.insert row.id row).get? ⟨runner⟩).any fun row => row.component == component) =
      if row.id.uuid = runner then row.component == component
        else (table.get? ⟨runner⟩).any fun row => row.component == component := by
  rw [Table.get?_insert]
  by_cases same : row.id.uuid = runner
  · subst same
    simp
  · have other : ⟨runner⟩ ≠ row.id := fun is => same (congrArg Key.uuid is).symm
    rw [if_neg same, if_neg other]

/-- What the start of an instance says of the instances of a queue. -/
theorem hasRunner_putInstance (s : Store) (record : InstanceRecord) (queue : QueueRef)
    (runner : Uuid) :
    (s.putInstance record).hasRunner queue runner =
      match record.consumer? with
      | none => s.hasRunner queue runner
      | some consumer =>
        if consumer.queue.kind = queue.kind ∧ consumer.instanceUuid = runner
          then consumer.queue == queue else s.hasRunner queue runner := by
  cases record with
  | publisher row => cases queue <;> rfl
  | subscriber row =>
    cases queue with
    | subscriber component =>
      have same : (QueueRef.subscriber row.component == .subscriber component) =
          (row.component == component) := by
        rw [Bool.eq_iff_iff]
        simp
      refine (any_component_insert s.subscriberInstances row runner component).trans ?_
      simp [InstanceRecord.consumer?, Consumer.queue, QueueRef.kind, Consumer.instanceUuid, hasRunner,
        same]
    | job component => rfl
  | job row =>
    cases queue with
    | subscriber component => rfl
    | job component =>
      have same : (QueueRef.job row.component == .job component) =
          (row.component == component) := by
        rw [Bool.eq_iff_iff]
        simp
      refine (any_component_insert s.jobInstances row runner component).trans ?_
      simp [InstanceRecord.consumer?, Consumer.queue, QueueRef.kind, Consumer.instanceUuid, hasRunner,
        same]

theorem tickets_putInstance (s : Store) (record : InstanceRecord) :
    (s.putInstance record).tickets = s.tickets := by
  rw [putInstance_frame]

theorem hasRunner_of_hasInstance_eq_false {s : Store} {record : InstanceRecord}
    {consumer : Consumer} {queue : QueueRef} (is : record.consumer? = some consumer)
    (kind : consumer.queue.kind = queue.kind) (new : s.hasInstance record.ref = false) :
    s.hasRunner queue consumer.instanceUuid = false := by
  cases record with
  | publisher row => cases is
  | subscriber row =>
    cases is
    cases queue with
    | subscriber component => simp_all [hasInstance, InstanceRecord.ref, Table.contains, hasRunner,
        Consumer.instanceUuid]
    | job component => cases kind
  | job row =>
    cases is
    cases queue with
    | subscriber component => cases kind
    | job component => simp_all [hasInstance, InstanceRecord.ref, Table.contains, hasRunner,
        Consumer.instanceUuid]

namespace KeepsRunners

/-- A start that succeeds is the start of a new instance. -/
theorem startInstance (record : InstanceRecord) :
    Leads KeepsRunners fun s => s.startInstance record := by
  intro s _ t done
  cases parts : s.requireParts record with
  | error e => cases (startInstance_of_missing parts).symm.trans done
  | ok =>
    have done := (startInstance_of_parts parts).symm.trans done
    cases new : s.hasInstance record.ref with
    | true =>
      rw [new] at done
      cases done
    | false =>
      rw [new] at done
      cases done
      intro queue runner there
      rw [hasRunner_putInstance]
      cases is : record.consumer? with
      | none => exact there
      | some consumer =>
        have another : ¬ (consumer.queue.kind = queue.kind ∧ consumer.instanceUuid = runner) := by
          rintro ⟨kind, rfl⟩
          rw [hasRunner_of_hasInstance_eq_false is kind new] at there
          cases there
        simpa only [if_neg another] using there

theorem registrar : WritesLead KeepsRunners registrar where
  refl := refl
  trans := trans
  host host := .always fun s => .of_frame (registerHost_frame s host) rfl rfl
  hostRuntime runtime := .always fun s => .of_frame (startHostRuntime_frame s runtime) rfl rfl
  scenario scenario := .always fun s => .of_frame (registerScenario_frame s scenario) rfl rfl
  messageType spec := .always fun s => .of_frame (registerMessageType_frame s spec) rfl rfl
  messageTypeByName _ := .always refl
  publisher row := .always fun s => .of_frame (putPublisher_frame s row) rfl rfl
  subscriber row := .always fun s => .of_frame (putSubscriber_frame s row) rfl rfl
  job row := .always fun s => .of_frame (putJob_frame s row) rfl rfl
  start record := startInstance record

end KeepsRunners

theorem perform_keepsRunners {call : Call} (other : ∀ record, call ≠ .startInstance record)
    (s : Store) (fresh : Fresh) : KeepsRunners s (s.perform fresh call).2 := by
  cases registration : call.isRegistration with
  | true => exact registration_leads KeepsRunners.registrar registration s fresh
  | false =>
    have confined := perform_confined s fresh call
    cases call with
    | startInstance record => exact absurd rfl (other record)
    | startUp | registerHost | startHostRuntime | registerScenario | registerMessageType
    | registerPublisher | registerSubscriber | registerJob => cases registration
    | touchInstance ref now => exact .touchInstance s ref now
    | appendLog record => exact .appendLog s record
    | _ => exact .of_frame confined rfl rfl

/-! What a step does to the owners. -/

section
variable {s : Store} {step : Step}

theorem not_ownersRegistered_of_strays (h : Strays s step) : ¬ OwnersRegistered (s.after step) := by
  intro registered
  cases h with
  | @claim fresh candidate consumer timeout now row queue stored accepted stranger =>
    have done : s.after ⟨fresh, .tryClaim candidate consumer timeout now⟩ = _ :=
      congrArg Prod.snd (tryClaim_of_accepted queue stored accepted fresh)
    rw [done] at registered
    have runs := registered candidate.id _ (Table.get?_insert_self _ _ _) _ rfl
    cases stranger.symm.trans runs
  | @start fresh record consumer id row parts is stored owner kind other =>
    have done : s.after ⟨fresh, .startInstance record⟩ = s.putInstance record :=
      congrArg Prod.snd (startInstance_of_parts parts)
    rw [done] at registered
    have there : (s.putInstance record).tickets.get? id = some row := by
      rw [tickets_putInstance]
      exact stored
    have runs := registered id row there _ owner
    rw [hasRunner_putInstance, is] at runs
    simp only [kind, true_and, if_true, beq_iff_eq] at runs
    exact other runs

theorem OwnersRegistered.startInstance (h : OwnersRegistered s) {fresh : Fresh}
    {record : InstanceRecord} (straight : ¬ Strays s ⟨fresh, .startInstance record⟩) :
    OwnersRegistered (s.startInstance record).2 := by
  cases parts : s.requireParts record with
  | error e =>
    rw [startInstance_of_missing parts]
    exact h
  | ok =>
    rw [startInstance_of_parts parts]
    intro id row stored owner owned
    rw [tickets_putInstance] at stored
    have before := h id row stored owner owned
    rw [hasRunner_putInstance]
    cases is : record.consumer? with
    | none => exact before
    | some consumer =>
      by_cases owns : consumer.queue.kind = row.queue.kind ∧ consumer.instanceUuid = owner
      · obtain ⟨kind, rfl⟩ := owns
        simp only [kind, true_and, if_true, beq_iff_eq]
        by_cases same : consumer.queue = row.queue
        · exact same
        · exact absurd (.start parts is stored owned kind same) straight
      · simpa only [if_neg owns] using before

theorem OwnersRegistered.after (h : OwnersRegistered s) (straight : ¬ Strays s step) :
    OwnersRegistered (s.after step) := by
  obtain ⟨fresh, call⟩ := step
  by_cases start : ∃ record, call = .startInstance record
  · obtain ⟨record, rfl⟩ := start
    exact h.startInstance straight
  · have keeps := perform_keepsRunners (fun record is => start ⟨record, is⟩) s fresh
    intro id row stored owner owned
    cases ticketStep s id ⟨fresh, call⟩ with
    | kept same => exact keeps _ _ (h id row (same.symm.trans stored) owner owned)
    | published _ _ _ becomes =>
      cases stored.symm.trans becomes
      cases owned
    | @claimed _ candidate consumer timeout now before is queue found accepted _ becomes =>
      cases stored.symm.trans becomes
      cases owned
      subst is
      cases runs : s.hasRunner before.queue consumer.instanceUuid with
      | true => exact keeps _ _ runs
      | false => exact absurd (.claim queue found accepted runs) straight
    | committed _ found _ _ becomes =>
      cases stored.symm.trans becomes
      exact keeps _ _ (h id _ found owner owned)
    | alive found _ _ becomes =>
      cases stored.symm.trans becomes
      exact keeps _ _ (h id _ found owner owned)

theorem ownersRegistered_after_iff (h : OwnersRegistered s) :
    OwnersRegistered (s.after step) ↔ ¬ Strays s step :=
  ⟨fun registered strays => not_ownersRegistered_of_strays strays registered, h.after⟩

end

/-- The owners of all tickets are registered instances of their queues at every point of a run
exactly when no step of the run strays; and from any point at which they are, it is the next step
that decides. -/
theorem owners_registered_iff (steps : List Step) :
    ((∀ before later, steps = before ++ later → OwnersRegistered (run .empty before)) ↔
      ∀ before step later, steps = before ++ step :: later → ¬ Strays (run .empty before) step) ∧
    ∀ step, OwnersRegistered (run .empty steps) →
      (OwnersRegistered (run .empty (steps ++ [step])) ↔ ¬ Strays (run .empty steps) step) := by
  have decides : ∀ before step, OwnersRegistered (run .empty before) →
      (OwnersRegistered (run .empty (before ++ [step])) ↔ ¬ Strays (run .empty before) step) := by
    intro before step registered
    rw [run_concat]
    exact ownersRegistered_after_iff registered
  refine ⟨⟨?_, ?_⟩, decides steps⟩
  · rintro registered before step later rfl
    have here := registered before (step :: later) rfl
    exact (decides before step here).1 (registered (before ++ [step]) later (by simp))
  · intro straight before
    induction before using concat_induction with
    | new =>
      intro _ _ id row stored
      cases stored
    | next before step ih =>
      rintro later rfl
      have here := ih (step :: later) (by simp)
      exact (decides before step here).2 (straight before step later (by simp))

/-- The run of the one ticket, in which the first of its claimants is registered. -/
def ownRunner : List Step := oneTicket ++ [⟨freshFrom 1100, .startInstance
  (.subscriber (.starting ⟨.ofNat 8⟩ ⟨.ofNat 5⟩ ⟨.ofNat 2⟩ default))⟩]

theorem owners_registered_iff_ownRunner :
    OwnersRegistered (run .empty ownRunner) ∧ ¬ Strays (run .empty ownRunner) firstClaim ∧
      OwnersRegistered (run .empty (ownRunner ++ [firstClaim])) := by
  have unowned : ∀ row ∈ (run .empty ownRunner).tickets.values, row.owner = none := by
    decide +kernel
  have registered : OwnersRegistered (run .empty ownRunner) := by
    intro id row stored owner owned
    rw [unowned row ((Table.mem_values_iff _ _).2 ⟨id, stored⟩)] at owned
    cases owned
  have there : (run .empty ownRunner).tickets.get? ⟨.ofNat 1000⟩ = some ticketAtFirst := by
    decide +kernel
  have runs : (run .empty ownRunner).hasRunner runner.queue runner.instanceUuid = true := by
    decide +kernel
  have straight : ¬ Strays (run .empty ownRunner) firstClaim := by
    rintro ⟨-, stored, -, stranger⟩
    cases there.symm.trans stored
    cases stranger.symm.trans runs
  exact ⟨registered, straight, ((owners_registered_iff ownRunner).2 firstClaim registered).2 straight⟩

/-- The claimant of the one ticket was never registered, and owns it. -/
theorem stranger_owns_ticket :
    ((run .empty (oneTicket ++ [firstClaim])).tickets.get? ⟨.ofNat 1000⟩).bind Ticket.owner =
      some runner.instanceUuid ∧
    (run .empty (oneTicket ++ [firstClaim])).hasRunner runner.queue runner.instanceUuid = false ∧
    ¬ OwnersRegistered (run .empty (oneTicket ++ [firstClaim])) := by
  have stored : (run .empty (oneTicket ++ [firstClaim])).tickets.get? ⟨.ofNat 1000⟩ =
      some (ticketAtFirst.claimedBy runner.instanceUuid ⟨.ofNat 2000⟩ default) := by
    decide +kernel
  have stranger : (run .empty (oneTicket ++ [firstClaim])).hasRunner runner.queue
      runner.instanceUuid = false := by
    decide +kernel
  refine ⟨by rw [stored]; rfl, stranger, ?_⟩
  intro registered
  cases stranger.symm.trans (registered _ _ stored _ rfl)

end Store
end MessageBus
