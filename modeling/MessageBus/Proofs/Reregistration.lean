import MessageBus.Proofs.Identity

/-! Registration again. A call asks for a number of registrations, one or those of a plan. Each of
them comes to hold, or something else is registered under its key and the call fails as a whole; only
the policies of subscribers and jobs follow the last registration. -/
namespace MessageBus

attribute [ext] Host Scenario

namespace Store

/-- One registration. That of a component is made for a scenario. -/
inductive Registration where
  | host (host : Host)
  | scenario (scenario : Scenario)
  | messageType (spec : MessageTypeSpec)
  | publisher (scenario : ScenarioId) (spec : PublisherSpec)
  | subscriber (scenario : ScenarioId) (spec : SubscriberSpec)
  | job (scenario : ScenarioId) (spec : JobSpec)

/-- The registrations of a call. A plan is registered for its own scenario. -/
def Call.registrations : Call → List Registration
  | .startUp plan _ =>
    .host plan.host :: .scenario plan.scenario :: plan.messageTypes.map .messageType ++
      plan.publishers.map (.publisher plan.scenario.id) ++
      plan.subscribers.map (.subscriber plan.scenario.id) ++ plan.jobs.map (.job plan.scenario.id)
  | .registerHost host => [.host host]
  | .registerScenario scenario => [.scenario scenario]
  | .registerMessageType spec => [.messageType spec]
  | .registerPublisher scenario spec => [.publisher scenario spec]
  | .registerSubscriber scenario spec => [.subscriber scenario spec]
  | .registerJob scenario spec => [.job scenario spec]
  | _ => []

/-- What registration compares of a component: its name, its scenario, and the name of its message
type. -/
structure Identity where
  name : String
  scenario : ScenarioId
  messageType : Option String
  deriving DecidableEq

def nameOfType? (s : Store) (id : MessageTypeId) : Option String :=
  (s.messageTypes.get? id).map MessageType.name

def publisherIdentity (s : Store) (row : Publisher) : Identity :=
  ⟨row.name, row.scenario, s.nameOfType? row.messageType⟩

def subscriberIdentity (s : Store) (row : Subscriber) : Identity :=
  ⟨row.name, row.scenario, s.nameOfType? row.messageType⟩

def jobIdentity (s : Store) (row : Job) : Identity :=
  ⟨row.name, row.scenario, row.messageType.bind s.nameOfType?⟩

namespace Registration

/-- What is asked for is registered, with whatever policy. -/
def Holds (s : Store) : Registration → Prop
  | .host row => s.hosts.get? row.id = some row
  | .scenario row => s.scenarios.get? row.id = some row
  | .messageType spec => ∃ id, s.messageTypes.get? id = some ⟨id, spec.name, spec.typeName⟩
  | .publisher home spec => ∃ row, s.publishers.get? spec.id = some row ∧
      s.publisherIdentity row = ⟨spec.name, home, some spec.messageType⟩
  | .subscriber home spec => ∃ row, s.subscribers.get? spec.id = some row ∧
      s.subscriberIdentity row = ⟨spec.name, home, some spec.messageType⟩
  | .job home spec => ∃ id row, s.jobs.get? id = some row ∧
      s.jobIdentity row = ⟨spec.name, home, spec.messageType⟩

/-- Something else is registered under the key, or under a name that is a key as well. -/
def Conflicts (s : Store) : Registration → Prop
  | .host new => ∃ row, s.hosts.get? new.id = some row ∧ row ≠ new
  | .scenario new => ∃ id row, s.scenarios.get? id = some row ∧
      (row.id = new.id ∨ row.name = new.name) ∧ row ≠ new
  | .messageType spec => ∃ id row, s.messageTypes.get? id = some row ∧ row.name = spec.name ∧
      row.typeName ≠ spec.typeName
  | .publisher home spec => ∃ row, s.publishers.get? spec.id = some row ∧
      s.publisherIdentity row ≠ ⟨spec.name, home, some spec.messageType⟩
  | .subscriber home spec => ∃ row, s.subscribers.get? spec.id = some row ∧
      s.subscriberIdentity row ≠ ⟨spec.name, home, some spec.messageType⟩
  | .job home spec => ∃ id row, s.jobs.get? id = some row ∧ row.name = spec.name ∧
      row.scenario = home ∧ s.jobIdentity row ≠ ⟨spec.name, home, spec.messageType⟩

end Registration

section
variable {s t : Store}

/-- The name of a type that is there stays. -/
theorem KeepsRows.nameOfType? (keeps : KeepsRows s t) {id : MessageTypeId}
    (there : ∃ row, s.messageTypes.get? id = some row) : t.nameOfType? id = s.nameOfType? id := by
  obtain ⟨row, there⟩ := there
  rw [Store.nameOfType?, Store.nameOfType?, there, keeps.messageTypes.stays there]

theorem KeepsRows.publisherIdentity (keeps : KeepsRows s t) (h : Rooted s) {id : PublisherId}
    {row : Publisher} (there : s.publishers.get? id = some row) :
    t.publisherIdentity row = s.publisherIdentity row := by
  have type := (h.publishers id row there).messageType _ rfl
  rw [Store.publisherIdentity, Store.publisherIdentity, keeps.nameOfType? type]

/-- The identity of a subscriber does not depend on its policy. -/
theorem KeepsRows.subscriberIdentity (keeps : KeepsRows s t) (h : Rooted s) {id : SubscriberId}
    {row row' : Subscriber} (there : s.subscribers.get? id = some row)
    (same : row'.withoutPolicy = row.withoutPolicy) :
    t.subscriberIdentity row' = s.subscriberIdentity row := by
  obtain ⟨-, name, scenario, messageType, -⟩ := Subscriber.mk.inj same
  have type := (h.subscribers id row there).messageType _ rfl
  rw [Store.subscriberIdentity, Store.subscriberIdentity, name, scenario, messageType,
    keeps.nameOfType? type]

theorem KeepsRows.jobIdentity (keeps : KeepsRows s t) (h : Rooted s) {id : JobId} {row row' : Job}
    (there : s.jobs.get? id = some row) (same : row'.withoutPolicy = row.withoutPolicy) :
    t.jobIdentity row' = s.jobIdentity row := by
  obtain ⟨-, name, scenario, messageType, -⟩ := Job.mk.inj same
  have types : row.messageType.bind t.nameOfType? = row.messageType.bind s.nameOfType? := by
    cases wanted : row.messageType with
    | none => rfl
    | some id => exact keeps.nameOfType? ((h.jobs _ row there).messageType id wanted)
  rw [Store.jobIdentity, Store.jobIdentity, name, scenario, messageType, types]

/-- What conflicts with a row that stays cannot come to hold. -/
theorem Registration.Holds.not_conflicts {r : Registration} (holds : r.Holds t) (h : Identified s)
    (later : Identified t) (keeps : KeepsRows s t) : ¬ r.Conflicts s := by
  cases r with
  | host host =>
    rintro ⟨row, there, other⟩
    exact other (Option.some.inj ((keeps.hosts.stays there).symm.trans holds))
  | scenario scenario =>
    rintro ⟨id, row, there, same, other⟩
    have stays := keeps.scenarios.stays there
    have key : id = scenario.id :=
      same.elim (fun same => (h.scenarioKeys id row there).symm.trans same)
        (later.scenarioNames _ _ _ _ stays holds)
    subst key
    exact other (Option.some.inj (stays.symm.trans holds))
  | messageType spec =>
    obtain ⟨own, holds⟩ := holds
    rintro ⟨id, row, there, same, other⟩
    have stays := keeps.messageTypes.stays there
    cases later.typeNames _ _ _ _ stays holds same
    cases stays.symm.trans holds
    exact other rfl
  | publisher scenario spec =>
    obtain ⟨own, holds, is⟩ := holds
    rintro ⟨row, there, other⟩
    cases (keeps.publishers.stays there).symm.trans holds
    exact other ((keeps.publisherIdentity h.rooted there).symm.trans is)
  | subscriber scenario spec =>
    obtain ⟨own, holds, is⟩ := holds
    rintro ⟨row, there, other⟩
    obtain ⟨row', stays, same⟩ := keeps.subscribers _ row there
    cases stays.symm.trans holds
    exact other ((keeps.subscriberIdentity h.rooted there same).symm.trans is)
  | job scenario spec =>
    obtain ⟨own, row₁, holds, is⟩ := holds
    rintro ⟨id, row, there, name, played, other⟩
    obtain ⟨row', stays, same⟩ := keeps.jobs id row there
    obtain ⟨-, name', played', -⟩ := Job.mk.inj same
    obtain ⟨itsName, itsScenario, -⟩ := Identity.mk.inj is
    cases later.jobNames _ _ _ _ stays holds (Prod.ext
      ((played'.trans played).trans itsScenario.symm) ((name'.trans name).trans itsName.symm))
    cases stays.symm.trans holds
    exact other ((keeps.jobIdentity h.rooted there same).symm.trans is)

/-! What has been settled holds. -/

theorem Identified.nameOfType? (h : Identified t) {name : String} {type : MessageType}
    (named : t.messageTypeNamed name = .ok type) : t.nameOfType? type.id = some name := by
  have found := messageTypeNamed_eq_ok_iff.1 named
  have there := h.typeKeys.get?_of_mem (List.mem_of_find?_eq_some found)
  rw [Store.nameOfType?, there, ← name_of_messageTypeByName? found]
  rfl

theorem TypeSettled.holds (h : Identified t) {spec : MessageTypeSpec} {row : MessageType}
    (settled : TypeSettled t spec row) : (Registration.messageType spec).Holds t := by
  have there := h.typeKeys.get?_of_mem (List.mem_of_find?_eq_some settled.1)
  have name := name_of_messageTypeByName? settled.1
  refine ⟨row.id, there.trans ?_⟩
  rw [← name, ← settled.2]

section
variable {scenario : ScenarioId}

theorem PublisherSettled.holds (h : Identified t) {spec : PublisherSpec} {row : Publisher}
    (settled : PublisherSettled scenario t spec row) :
    (Registration.publisher scenario spec).Holds t := by
  obtain ⟨type, named, -, name, played, messageType, there⟩ := settled
  refine ⟨row, there, ?_⟩
  rw [publisherIdentity, name, played, messageType, h.nameOfType? named]

theorem SubscriberSettled.holds (h : Identified t) {spec : SubscriberSpec} {row : Subscriber}
    (settled : SubscriberSettled scenario t spec row) :
    (Registration.subscriber scenario spec).Holds t := by
  obtain ⟨type, named, -, rfl, there⟩ := settled
  obtain ⟨stored, there, same⟩ := Option.map_eq_some_iff.1 there
  obtain ⟨-, name, played, messageType, -⟩ := Subscriber.mk.inj same
  refine ⟨stored, there, ?_⟩
  rw [subscriberIdentity, name, played, messageType, h.nameOfType? named]

theorem JobSettled.named (h : Identified t) {spec : JobSpec} {row : Job}
    (settled : JobSettled scenario t spec row) :
    ∃ stored, t.jobs.get? row.id = some stored ∧ stored.withoutPolicy = row.withoutPolicy ∧
      row.scenario = scenario ∧ row.name = spec.name := by
  obtain ⟨_, -, -, -, -, found⟩ := settled
  obtain ⟨stored, found, same⟩ := Option.map_eq_some_iff.1 found
  obtain ⟨there, played, name⟩ := jobNamed?_eq_some h.jobKeys found
  obtain ⟨id, name', played', -⟩ := Job.mk.inj same
  exact ⟨stored, id ▸ there, same, played'.symm.trans played, name'.symm.trans name⟩

theorem JobSettled.holds (h : Identified t) {spec : JobSpec} {row : Job}
    (settled : JobSettled scenario t spec row) : (Registration.job scenario spec).Holds t := by
  obtain ⟨stored, there, same, played, name⟩ := settled.named h
  obtain ⟨type, named, -, messageType, -, -⟩ := settled
  obtain ⟨-, name', played', messageType', -⟩ := Job.mk.inj same
  refine ⟨row.id, stored, there, ?_⟩
  rw [jobIdentity, name', played', messageType', messageType, name, played]
  congr 1
  cases wanted : spec.messageType with
  | none =>
    rw [wanted] at named
    cases named
    rfl
  | some own =>
    rw [wanted, Option.mapM_some] at named
    cases found : t.messageTypeNamed own with
    | error e =>
      rw [found] at named
      cases named
    | ok row =>
      rw [found] at named
      cases named
      exact h.nameOfType? found

end

end

/-! What a call that succeeds has registered. -/

/-- The registrations hold, and the rows that were set for subscribers and jobs are theirs. -/
structure Carried (asked : List Registration) (s t : Store) : Prop where
  holds : ∀ r ∈ asked, r.Holds t
  subscribers : ∃ rows, t.subscribers = s.subscribers.insertAll Subscriber.id rows ∧
    ∀ row ∈ rows, ∃ home spec, .subscriber home spec ∈ asked ∧ row.id = spec.id ∧
      row.policy = spec.policy
  jobs : ∃ rows, t.jobs = s.jobs.insertAll Job.id rows ∧
    ∀ row ∈ rows, ∃ home spec, .job home spec ∈ asked ∧ row.scenario = home ∧
      row.name = spec.name ∧ row.policy = spec.policy

theorem Carried.of_queues {asked : List Registration} {s t : Store} (same : SameQueues s t)
    (holds : ∀ r ∈ asked, r.Holds t) : Carried asked s t :=
  ⟨holds, ⟨[], same.subscribers, nofun⟩, ⟨[], same.jobs, nofun⟩⟩

section
variable {s t : Store}

theorem Settled.host_eq (h : Identified t) {plan : StartupPlan} {base : StartupReceipt}
    (settled : Settled t plan base) : base.host = plan.host :=
  Host.ext (h.hostKeys _ _ settled.host.1) settled.host.2

theorem Settled.scenario_eq (h : Identified t) {plan : StartupPlan} {base : StartupReceipt}
    (settled : Settled t plan base) : base.scenario = plan.scenario :=
  Scenario.ext (h.scenarioKeys _ _ settled.scenario.1) settled.scenario.2

theorem holds_of_settled {σ α : Type} {P : σ → α → Prop} {specs : List σ} {rows : List α}
    (settled : List.Forall₂ P specs rows) {asked : σ → Registration}
    (each : ∀ {spec row}, P spec row → (asked spec).Holds t) : ∀ r ∈ specs.map asked, r.Holds t := by
  induction settled with
  | nil => exact nofun
  | cons here _ ih => exact List.forall_mem_cons.2 ⟨each here, ih⟩

theorem Settled.holds (h : Identified t) {plan : StartupPlan} {base : StartupReceipt}
    (settled : Settled t plan base) (now : Instant) :
    ∀ r ∈ (Call.startUp plan now).registrations, r.Holds t := by
  have home := settled.scenario_eq h
  have types := holds_of_settled settled.messageTypes (TypeSettled.holds h)
  have publishers := holds_of_settled settled.publishers (PublisherSettled.holds h)
  have subscribers := holds_of_settled settled.subscribers (SubscriberSettled.holds h)
  have jobs := holds_of_settled settled.jobs (JobSettled.holds h)
  rw [home] at publishers subscribers jobs
  simp only [Call.registrations, List.cons_append, List.forall_mem_cons, List.forall_mem_append]
  exact ⟨settled.host_eq h ▸ settled.host.1, home ▸ settled.scenario.1,
    ⟨⟨types, publishers⟩, subscribers⟩, jobs⟩

/-- The rows of a list of registrations are those of its entries. -/
theorem entry_of_row {σ α : Type} {P : σ → α → Prop} {specs : List σ} {rows : List α}
    (settled : List.Forall₂ P specs rows) {row : α} (mem : row ∈ rows) :
    ∃ spec ∈ specs, P spec row := by
  induction settled with
  | nil => cases mem
  | cons here _ ih =>
    rcases List.mem_cons.1 mem with rfl | later
    · exact ⟨_, List.mem_cons_self, here⟩
    · obtain ⟨spec, there, settled⟩ := ih later
      exact ⟨spec, List.mem_cons_of_mem _ there, settled⟩

theorem row_of_entry {σ α : Type} {P : σ → α → Prop} {specs : List σ} {rows : List α}
    (settled : List.Forall₂ P specs rows) {spec : σ} (mem : spec ∈ specs) :
    ∃ row ∈ rows, P spec row :=
  entry_of_row settled.flip mem

theorem carried_of_startUp (h : Identified s) (later : Identified t) {plan : StartupPlan}
    {now : Instant} {receipt : StartupReceipt} (done : s.startUp plan now = (.ok receipt, t)) :
    Carried (Call.startUp plan now).registrations s t := by
  obtain ⟨base, _, _, -, -, -, settled, subscribers, jobs⟩ := settled_of_startUp h.toCatalogued done
  have home := settled.scenario_eq later
  refine ⟨settled.holds later now, ⟨_, subscribers, fun row mem => ?_⟩, ⟨_, jobs, fun row mem => ?_⟩⟩
  · obtain ⟨spec, there, type, -, -, is, -⟩ := entry_of_row settled.subscribers mem
    refine ⟨plan.scenario.id, spec, ?_, by rw [is], by rw [is]⟩
    simp [Call.registrations, there]
  · obtain ⟨spec, there, settled⟩ := entry_of_row settled.jobs mem
    obtain ⟨_, -, -, played, name⟩ := settled.named later
    obtain ⟨_, -, -, -, policy, -⟩ := settled
    refine ⟨plan.scenario.id, spec, ?_, home ▸ played, name, policy⟩
    simp [Call.registrations, there]

theorem registrations_of_other {call : Call} (other : call.isRegistration = false) :
    call.registrations = [] := by
  cases call <;> first | rfl | cases other

theorem carried_of_host (later : Identified t) {host row : Host}
    (done : s.registerHost host = (.ok row, t)) :
    Carried (Call.registerHost host).registrations s t := by
  refine .of_queues ?_ ?_
  · cases registerHost_eq_ok_iff.1 done <;> exact ⟨rfl, rfl⟩
  · rintro _ (_ | ⟨_, ⟨⟩⟩)
    obtain ⟨there, name⟩ := host_of_registered done
    exact there.trans (congrArg some (Host.ext (later.hostKeys _ _ there) name))

theorem carried_of_scenario (later : Identified t) {scenario row : Scenario}
    (done : s.registerScenario scenario = (.ok row, t)) :
    Carried (Call.registerScenario scenario).registrations s t := by
  refine .of_queues ?_ ?_
  · cases (registerScenario_eq_ok_iff.1 done).2 <;> exact ⟨rfl, rfl⟩
  · rintro _ (_ | ⟨_, ⟨⟩⟩)
    obtain ⟨-, there, name, -⟩ := scenario_of_registered done
    exact there.trans (congrArg some (Scenario.ext (later.scenarioKeys _ _ there) name))

theorem carried_of_messageType (h : Identified s) (later : Identified t) {spec : MessageTypeSpec}
    {row : MessageType} (done : s.registerMessageType spec = (.ok row, t)) :
    Carried (Call.registerMessageType spec).registrations s t := by
  refine .of_queues (SameQueues.messageType spec _ _ _ done) ?_
  rintro _ (_ | ⟨_, ⟨⟩⟩)
  obtain ⟨-, -, settled⟩ := settles_messageType h.toCatalogued done
  exact settled.holds later

theorem carried_of_publisher (h : Identified s) (later : Identified t) {scenario : ScenarioId}
    {spec : PublisherSpec} {row : Publisher}
    (done : s.registerPublisher scenario spec = (.ok row, t)) :
    Carried (Call.registerPublisher scenario spec).registrations s t := by
  refine .of_queues (SameQueues.publisher scenario spec _ _ _ done) ?_
  rintro _ (_ | ⟨_, ⟨⟩⟩)
  obtain ⟨-, -, settled⟩ := settles_publisher h.toCatalogued done
  exact settled.holds later

theorem carried_of_subscriber (h : Identified s) (later : Identified t) {scenario : ScenarioId}
    {spec : SubscriberSpec} {row : Subscriber}
    (done : s.registerSubscriber scenario spec = (.ok row, t)) :
    Carried (Call.registerSubscriber scenario spec).registrations s t := by
  obtain ⟨-, -, settled⟩ := settles_subscriber h.toCatalogued done
  have inserted := inserted_subscriber done
  obtain ⟨_, -, put⟩ := registerSubscriber_eq_ok_iff.1 done
  obtain ⟨-, -, rfl, rfl⟩ := putSubscriber_eq_ok_iff.1 put
  refine ⟨?_, ⟨[_], inserted, ?_⟩, ⟨[], rfl, nofun⟩⟩
  · rintro _ (_ | ⟨_, ⟨⟩⟩)
    exact settled.holds later
  · rintro _ (_ | ⟨_, ⟨⟩⟩)
    exact ⟨scenario, spec, List.mem_cons_self, rfl, rfl⟩

theorem carried_of_job (h : Identified s) (later : Identified t) {scenario : ScenarioId}
    {spec : JobSpec} {row : Job} (done : s.registerJob scenario spec = (.ok row, t)) :
    Carried (Call.registerJob scenario spec).registrations s t := by
  obtain ⟨-, -, settled⟩ := settles_job h.toCatalogued done
  obtain ⟨inserted, same⟩ := inserted_job done
  refine ⟨?_, ⟨[], same, nofun⟩, ⟨[_], inserted, ?_⟩⟩
  · rintro _ (_ | ⟨_, ⟨⟩⟩)
    exact settled.holds later
  · rintro _ (_ | ⟨_, ⟨⟩⟩)
    obtain ⟨_, -, -, played, name⟩ := settled.named later
    obtain ⟨_, -, -, -, policy, -⟩ := settled
    exact ⟨scenario, spec, List.mem_cons_self, played, name, policy⟩

/-- A call that succeeds has registered what it was asked for. -/
theorem carried_of_ok (h : Identified s) (step : Step) {a : step.call.Answer}
    (done : step.answer s = .ok a) : Carried step.call.registrations s (s.after step) := by
  have later := (Continues.after h step).identified
  obtain ⟨fresh, call⟩ := step
  have done : s.perform fresh call = (.ok a, s.after ⟨fresh, call⟩) := Prod.ext done rfl
  generalize s.after ⟨fresh, call⟩ = t at later done
  cases registers : call.isRegistration with
  | false =>
    have same := perform_sameCatalog registers s fresh
    rw [done] at same
    rw [registrations_of_other registers]
    exact .of_queues ⟨same.subscribers, same.jobs⟩ nofun
  | true => ?_
  cases call with
  | startUp plan now => exact carried_of_startUp h later done
  | registerHost host => exact carried_of_host later done
  | registerScenario scenario => exact carried_of_scenario later done
  | registerMessageType spec => exact carried_of_messageType h later done
  | registerPublisher scenario spec => exact carried_of_publisher h later done
  | registerSubscriber scenario spec => exact carried_of_subscriber h later done
  | registerJob scenario spec => exact carried_of_job h later done
  | startHostRuntime runtime =>
    obtain ⟨-, -, rfl⟩ := startHostRuntime_eq_ok_iff.1 done
    exact .of_queues ⟨rfl, rfl⟩ nofun
  | _ => cases registers

end

/-! What a call leaves of the catalog. -/

/-- What one step keeps of the identities in a catalog. Every row stays under its key, so that no key
is given to another one. The policy of a subscriber or a job changes only by a registration with the
same identity and this policy; a registration with another identity fails and changes nothing. -/
structure KeepsIdentities (s : Store) (step : Step) : Prop where
  rows : KeepsRows s (s.after step)
  subscriberPolicies : ∀ id row row', s.subscribers.get? id = some row →
    (s.after step).subscribers.get? id = some row' → row'.policy ≠ row.policy →
    (∃ answer, step.answer s = .ok answer) ∧
      ∃ home spec, .subscriber home spec ∈ step.call.registrations ∧ spec.id = id ∧
        s.subscriberIdentity row = ⟨spec.name, home, some spec.messageType⟩ ∧
        row'.policy = spec.policy
  jobPolicies : ∀ id row row', s.jobs.get? id = some row →
    (s.after step).jobs.get? id = some row' → row'.policy ≠ row.policy →
    (∃ answer, step.answer s = .ok answer) ∧
      ∃ home spec, .job home spec ∈ step.call.registrations ∧
        s.jobIdentity row = ⟨spec.name, home, spec.messageType⟩ ∧ row'.policy = spec.policy
  registered : ∀ answer, step.answer s = .ok answer →
    ∀ r ∈ step.call.registrations, r.Holds (s.after step)
  conflicting : ∀ r ∈ step.call.registrations, r.Conflicts s →
    (∃ e, step.answer s = .error e) ∧ s.after step = s

/-- A row that is found after some were set is one of these, or it was there before. -/
theorem set_or_stored {κ α : Type} [DecidableEq κ] {key : α → κ} {t u : Table κ α} {rows : List α}
    (set : u = t.insertAll key rows) {k : κ} {row : α} (found : u.get? k = some row) :
    (row ∈ rows ∧ key row = k) ∨ t.get? k = some row := by
  rw [set, Table.get?_insertAll] at found
  cases last : rows.reverse.find? fun row => key row == k with
  | none =>
    rw [last] at found
    exact .inr found
  | some own =>
    rw [last] at found
    cases found
    exact .inl ⟨List.mem_reverse.1 (List.mem_of_find?_eq_some last),
      by simpa using List.find?_some last⟩

section
variable {s t : Store} {asked : List Registration} (h : Identified s) (keeps : KeepsRows s t)
variable (carried : Carried asked s t)
include h keeps carried

theorem Carried.subscriberPolicy {id : SubscriberId} {row row' : Subscriber}
    (there : s.subscribers.get? id = some row) (next : t.subscribers.get? id = some row')
    (other : row'.policy ≠ row.policy) :
    ∃ home spec, .subscriber home spec ∈ asked ∧ spec.id = id ∧
      s.subscriberIdentity row = ⟨spec.name, home, some spec.messageType⟩ ∧
      row'.policy = spec.policy := by
  obtain ⟨rows, set, entries⟩ := carried.subscribers
  rcases set_or_stored set next with ⟨mem, key⟩ | before
  · obtain ⟨home, spec, asked, same, policy⟩ := entries row' mem
    obtain ⟨own, holds, is⟩ := carried.holds _ asked
    have own_eq : spec.id = id := same.symm.trans key
    rw [own_eq] at holds
    cases next.symm.trans holds
    obtain ⟨later, found, stays⟩ := keeps.subscribers id row there
    cases next.symm.trans found
    exact ⟨home, spec, asked, own_eq,
      (keeps.subscriberIdentity h.rooted there stays).symm.trans is, policy⟩
  · cases there.symm.trans before
    exact absurd rfl other

theorem Carried.jobPolicy (later : Identified t) {id : JobId} {row row' : Job}
    (there : s.jobs.get? id = some row) (next : t.jobs.get? id = some row')
    (other : row'.policy ≠ row.policy) :
    ∃ home spec, .job home spec ∈ asked ∧
      s.jobIdentity row = ⟨spec.name, home, spec.messageType⟩ ∧ row'.policy = spec.policy := by
  obtain ⟨rows, set, entries⟩ := carried.jobs
  rcases set_or_stored set next with ⟨mem, -⟩ | before
  · obtain ⟨home, spec, asked, played, name, policy⟩ := entries row' mem
    obtain ⟨own, holder, holds, is⟩ := carried.holds _ asked
    obtain ⟨itsName, itsScenario, -⟩ := Identity.mk.inj is
    cases later.jobNames _ _ _ _ next holds
      (Prod.ext (played.trans itsScenario.symm) (name.trans itsName.symm))
    cases next.symm.trans holds
    obtain ⟨stored, found, stays⟩ := keeps.jobs id row there
    cases next.symm.trans found
    exact ⟨home, spec, asked, (keeps.jobIdentity h.rooted there stays).symm.trans is, policy⟩
  · cases there.symm.trans before
    exact absurd rfl other

end

section
variable {s : Store} (messages : Referenced s) {step : Step} {e : StoreError}
variable (failed : step.answer s = .error e)
include messages failed

/-- A registration that fails changes nothing. -/
theorem unchanged_of_failed (registers : step.call.isRegistration = true) : s.after step = s := by
  refine perform_keepsOnError messages (fun record start => ?_) step.fresh e failed
  rw [start] at registers
  cases registers

theorem sameCatalog_of_failed : SameCatalog s (s.after step) := by
  cases registers : step.call.isRegistration with
  | false => exact perform_sameCatalog registers s step.fresh
  | true =>
    rw [unchanged_of_failed messages failed registers]
    exact .refl s

end

theorem KeepsIdentities.of_ok {s : Store} (h : Identified s) {step : Step} {a : step.call.Answer}
    (done : step.answer s = .ok a) : KeepsIdentities s step := by
  have continues := Continues.after h step
  have keeps := continues.keeps
  have carried := carried_of_ok h step done
  refine ⟨keeps, fun id row row' there next other => ⟨⟨a, done⟩, ?_⟩,
    fun id row row' there next other => ⟨⟨a, done⟩, ?_⟩, fun _ _ => carried.holds, ?_⟩
  · exact carried.subscriberPolicy h keeps there next other
  · exact carried.jobPolicy h keeps continues.identified there next other
  · intro r asked conflicts
    exact absurd conflicts ((carried.holds r asked).not_conflicts h continues.identified keeps)

theorem KeepsIdentities.of_error {s : Store} (h : Identified s) (messages : Referenced s) {step : Step}
    {e : StoreError} (failed : step.answer s = .error e) : KeepsIdentities s step := by
  have same := sameCatalog_of_failed messages failed
  refine ⟨(Continues.after h step).keeps, fun id row row' there next other => ?_,
    fun id row row' there next other => ?_, fun _ done => (nomatch failed.symm.trans done),
    fun r asked _ => ⟨⟨e, failed⟩, ?_⟩⟩
  · rw [same.subscribers, there] at next
    cases next
    exact absurd rfl other
  · rw [same.jobs, there] at next
    cases next
    exact absurd rfl other
  · refine unchanged_of_failed messages failed ?_
    by_contra other
    rw [registrations_of_other (eq_false_of_ne_true other)] at asked
    cases asked

/-- Identities are unique and stay. In every store rows are known by their keys and names, and each
further step keeps what is registered. -/
theorem identities_kept (past : List Step) :
    Identified (run .empty past) ∧ ∀ step, KeepsIdentities (run .empty past) step := by
  have h := identified_run past
  refine ⟨h, fun step => ?_⟩
  cases answer : step.answer (run .empty past) with
  | ok a => exact .of_ok h answer
  | error e => exact .of_error h (referenced_run past) answer

/-- The subscriber is registered again, with another policy. -/
def renewal : Step := ⟨freshFrom 0, .registerSubscriber ⟨.ofNat 3⟩
  ⟨⟨.ofNat 5⟩, "subscriber", "type", .inOrder (.ofSecs 2)⟩⟩

theorem identities_kept_renewal :
    KeepsIdentities (run .empty oneTicket) renewal ∧
    ((run .empty oneTicket).after renewal).subscribers.get? ⟨.ofNat 5⟩ =
      some ⟨⟨.ofNat 5⟩, "subscriber", ⟨.ofNat 3⟩, ⟨1⟩, .inOrder (.ofSecs 2)⟩ :=
  ⟨(identities_kept oneTicket).2 renewal, rfl⟩

end Store
end MessageBus
