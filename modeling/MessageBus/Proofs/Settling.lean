import MessageBus.Proofs.Growth

/-! Settled components. A startup leaves every component of its plan settled: what is registered under
its key agrees with the plan, but perhaps for the policy, where a later entry of the plan may have
renewed that of an earlier one. Registering what is settled gives the same row again and puts it where
it is. -/
namespace MessageBus.Store
open StartupPlan

/-! What is settled for each kind of component. -/

/-- The type is there under its name. -/
def TypeSettled (s : Store) (spec : MessageTypeSpec) (row : MessageType) : Prop :=
  s.messageTypeByName? spec.name = some row ∧ row.typeName = spec.typeName

def PublisherSettled (scenario : ScenarioId) (s : Store) (spec : PublisherSpec) (row : Publisher) :
    Prop :=
  ∃ type, s.messageTypeNamed spec.messageType = .ok type ∧ s.HasParts scenario (some type.id) ∧
    row.name = spec.name ∧ row.scenario = scenario ∧ row.messageType = type.id ∧
    s.publishers.get? spec.id = some row

/-- What is stored of the subscriber is what was asked for, but for the policy. -/
def SubscriberSettled (scenario : ScenarioId) (s : Store) (spec : SubscriberSpec)
    (row : Subscriber) : Prop :=
  ∃ type, s.messageTypeNamed spec.messageType = .ok type ∧ s.HasParts scenario (some type.id) ∧
    row = ⟨spec.id, spec.name, scenario, type.id, spec.policy⟩ ∧
    (s.subscribers.get? spec.id).map Subscriber.withoutPolicy = some row.withoutPolicy

def JobSettled (scenario : ScenarioId) (s : Store) (spec : JobSpec) (row : Job) : Prop :=
  ∃ type, spec.messageType.mapM s.messageTypeNamed = .ok type ∧
    s.HasParts scenario (type.map MessageType.id) ∧
    row.messageType = type.map MessageType.id ∧ row.policy = spec.policy ∧
    (s.jobNamed? scenario spec.name).map Job.withoutPolicy = some row.withoutPolicy

section
variable {s t : Store} {scenario : ScenarioId}

theorem messageTypeNamed_eq_ok_iff {name : String} {row : MessageType} :
    s.messageTypeNamed name = .ok row ↔ s.messageTypeByName? name = some row := by
  unfold messageTypeNamed
  split <;> simp_all

theorem registerPublisher_eq_ok_iff {spec : PublisherSpec} {row : Publisher} :
    s.registerPublisher scenario spec = (.ok row, t) ↔
      ∃ type, s.messageTypeNamed spec.messageType = .ok type ∧
        s.putPublisher ⟨spec.id, spec.name, scenario, type.id⟩ = (.ok row, t) := by
  unfold registerPublisher
  cases s.messageTypeNamed spec.messageType <;> simp

theorem registerSubscriber_eq_ok_iff {spec : SubscriberSpec} {row : Subscriber} :
    s.registerSubscriber scenario spec = (.ok row, t) ↔
      ∃ type, s.messageTypeNamed spec.messageType = .ok type ∧
        s.putSubscriber ⟨spec.id, spec.name, scenario, type.id, spec.policy⟩ = (.ok row, t) := by
  unfold registerSubscriber
  cases s.messageTypeNamed spec.messageType <;> simp

theorem registerJob_eq_ok_iff {spec : JobSpec} {row : Job} :
    s.registerJob scenario spec = (.ok row, t) ↔
      ∃ type, spec.messageType.mapM s.messageTypeNamed = .ok type ∧
        s.putJob ⟨⟨0⟩, spec.name, scenario, type.map MessageType.id, spec.policy⟩ = (.ok row, t) := by
  unfold registerJob
  cases spec.messageType.mapM s.messageTypeNamed <;> simp

namespace Grows
variable (h : Grows s t)
include h

theorem messageTypeNamed {name : String} {row : MessageType}
    (found : s.messageTypeNamed name = .ok row) : t.messageTypeNamed name = .ok row :=
  messageTypeNamed_eq_ok_iff.2 (h.names name row (messageTypeNamed_eq_ok_iff.1 found))

theorem mapM_messageTypeNamed {name : Option String} {row : Option MessageType}
    (found : name.mapM s.messageTypeNamed = .ok row) : name.mapM t.messageTypeNamed = .ok row := by
  cases name with
  | none => exact found
  | some name =>
    rw [Option.mapM_some] at found ⊢
    cases named : s.messageTypeNamed name with
    | error e =>
      rw [named] at found
      cases found
    | ok type =>
      rw [named] at found
      rw [h.messageTypeNamed named]
      exact found

theorem hasParts {messageType : Option MessageTypeId} (parts : s.HasParts scenario messageType) :
    t.HasParts scenario messageType := by
  refine ⟨?_, fun id wanted => ?_⟩
  · rw [h.scenarios]
    exact parts.scenario
  · obtain ⟨row, there⟩ := parts.messageType id wanted
    exact h.types id row there

theorem typeSettled {spec : MessageTypeSpec} {row : MessageType} (settled : TypeSettled s spec row) :
    TypeSettled t spec row :=
  ⟨h.names _ _ settled.1, settled.2⟩

theorem publisherSettled {spec : PublisherSpec} {row : Publisher}
    (settled : PublisherSettled scenario s spec row) : PublisherSettled scenario t spec row := by
  obtain ⟨type, named, parts, name, played, messageType, stored⟩ := settled
  exact ⟨type, h.messageTypeNamed named, h.hasParts parts, name, played, messageType,
    h.publishers _ _ stored⟩

theorem subscriberSettled {spec : SubscriberSpec} {row : Subscriber}
    (settled : SubscriberSettled scenario s spec row) : SubscriberSettled scenario t spec row := by
  obtain ⟨type, named, parts, is, stored⟩ := settled
  exact ⟨type, h.messageTypeNamed named, h.hasParts parts, is, h.subscribers _ _ stored⟩

theorem jobSettled {spec : JobSpec} {row : Job} (settled : JobSettled scenario s spec row) :
    JobSettled scenario t spec row := by
  obtain ⟨type, named, parts, messageType, policy, stored⟩ := settled
  exact ⟨type, h.mapM_messageTypeNamed named, h.hasParts parts, messageType, policy,
    h.jobs _ _ _ stored⟩

end Grows

/-! The first registration settles. -/

theorem settles_messageType {spec : MessageTypeSpec} {row : MessageType} (h : Catalogued s)
    (done : s.registerMessageType spec = (.ok row, t)) :
    Catalogued t ∧ Grows s t ∧ TypeSettled t spec row := by
  obtain ⟨found, -⟩ := found_of_registered h done
  refine ⟨h.messageType done, .messageType h done, found, ?_⟩
  cases (registerMessageType_eq_ok_iff.1 done).2 with
  | stored _ typeName => exact typeName
  | new => rfl

theorem settles_publisher {spec : PublisherSpec} {row : Publisher} (h : Catalogued s)
    (done : s.registerPublisher scenario spec = (.ok row, t)) :
    Catalogued t ∧ Grows s t ∧ PublisherSettled scenario t spec row := by
  obtain ⟨type, named, put⟩ := registerPublisher_eq_ok_iff.1 done
  have grows := Grows.publisher put
  obtain ⟨parts, how⟩ := putPublisher_eq_ok_iff.1 put
  refine ⟨h.publisher put, grows, type, grows.messageTypeNamed named, grows.hasParts parts, ?_⟩
  cases how with
  | stored there same => exact ⟨same.1, same.2.1, same.2.2, there⟩
  | new => exact ⟨rfl, rfl, rfl, Table.get?_insert_self _ _ _⟩

theorem settles_subscriber {spec : SubscriberSpec} {row : Subscriber} (h : Catalogued s)
    (done : s.registerSubscriber scenario spec = (.ok row, t)) :
    Catalogued t ∧ Grows s t ∧ SubscriberSettled scenario t spec row := by
  obtain ⟨type, named, put⟩ := registerSubscriber_eq_ok_iff.1 done
  have grows := Grows.subscriber h put
  have catalogued := h.subscriber put
  obtain ⟨parts, -, rfl, rfl⟩ := putSubscriber_eq_ok_iff.1 put
  refine ⟨catalogued, grows, type, grows.messageTypeNamed named, grows.hasParts parts, rfl, ?_⟩
  rw [Table.get?_insert_self]
  rfl

theorem settles_job {spec : JobSpec} {row : Job} (h : Catalogued s)
    (done : s.registerJob scenario spec = (.ok row, t)) :
    Catalogued t ∧ Grows s t ∧ JobSettled scenario t spec row := by
  obtain ⟨type, named, put⟩ := registerJob_eq_ok_iff.1 done
  have grows := Grows.job h put
  obtain ⟨parts, how⟩ := putJob_eq_ok_iff.1 put
  refine ⟨h.job put, grows, type, grows.mapM_messageTypeNamed named, grows.hasParts parts, ?_⟩
  cases how with
  | stored found messageType =>
    obtain ⟨there, -, -⟩ := jobNamed?_eq_some h.jobKeys found
    refine ⟨messageType, rfl, ?_⟩
    refine (map_jobNamed?_of_renewed rfl there ?_ _ _).trans ?_
    · rfl
    · rw [found]
      rfl
  | new unknown =>
    refine ⟨rfl, rfl, ?_⟩
    refine (map_jobNamed?_of_new rfl h.jobUnused _ _).trans ?_
    rw [unknown]
    simp

/-! What is settled is registered again with the same answer. -/

end

/-! A plan whose components are settled. -/

/-- The components of a plan are settled, with the rows of a receipt. The last rows of subscribers
and jobs are those that are stored. -/
structure Settled (s : Store) (plan : StartupPlan) (receipt : StartupReceipt) : Prop where
  host : s.hosts.get? plan.host.id = some receipt.host ∧ receipt.host.name = plan.host.name
  hostThere : ∃ host, s.hosts.get? receipt.host.id = some host
  nameFree : s.nameTaken plan.scenario = false
  scenario : s.scenarios.get? plan.scenario.id = some receipt.scenario ∧
    receipt.scenario.name = plan.scenario.name
  messageTypes : List.Forall₂ (TypeSettled s) plan.messageTypes receipt.messageTypes
  publishers :
    List.Forall₂ (PublisherSettled receipt.scenario.id s) plan.publishers receipt.publishers
  subscribers :
    List.Forall₂ (SubscriberSettled receipt.scenario.id s) plan.subscribers receipt.subscribers
  jobs : List.Forall₂ (JobSettled receipt.scenario.id s) plan.jobs receipt.jobs
  subscriberRows : s.subscribers.insertAll Subscriber.id receipt.subscribers = s.subscribers
  jobRows : s.jobs.insertAll Job.id receipt.jobs = s.jobs

section
variable {s t : Store}

theorem startHostRuntime_eq_ok_iff {runtime : HostRuntime} :
    s.startHostRuntime runtime = (.ok (), t) ↔
      (∃ host, s.hosts.get? runtime.host = some host) ∧ s.runtimes.get? runtime.id = none ∧
        t = { s with runtimes := s.runtimes.insert runtime.id runtime } := by
  have unused : s.runtimes.get? runtime.id = none ↔ s.runtimes.contains runtime.id = false := by
    simp [Table.contains]
  rw [startHostRuntime, attempt_eq_ok_iff, unused]
  simp only [bind_eq_ok_iff, require_eq_ok_iff]
  cases s.runtimes.contains runtime.id with
  | false => simp [eq_comm (b := t)]
  | true => simp

theorem host_of_registered {host row : Host} (done : s.registerHost host = (.ok row, t)) :
    t.hosts.get? host.id = some row ∧ row.name = host.name := by
  cases registerHost_eq_ok_iff.1 done with
  | stored there name => exact ⟨there, name⟩
  | new => exact ⟨Table.get?_insert_self _ _ _, rfl⟩

theorem scenario_of_registered {scenario row : Scenario}
    (done : s.registerScenario scenario = (.ok row, t)) :
    t.nameTaken scenario = false ∧ t.scenarios.get? scenario.id = some row ∧
      row.name = scenario.name ∧ t.hosts = s.hosts := by
  obtain ⟨free, how⟩ := registerScenario_eq_ok_iff.1 done
  cases how with
  | stored there name => exact ⟨free, there, name, rfl⟩
  | new unknown =>
    refine ⟨?_, Table.get?_insert_self _ _ _, rfl, rfl⟩
    unfold nameTaken at free ⊢
    rw [Table.values_insert_of_new unknown, List.any_append, free]
    simp

theorem inserted_subscriber {scenario : ScenarioId} {spec : SubscriberSpec} {row : Subscriber}
    (done : s.registerSubscriber scenario spec = (.ok row, t)) :
    t.subscribers = s.subscribers.insert row.id row := by
  obtain ⟨_, -, put⟩ := registerSubscriber_eq_ok_iff.1 done
  obtain ⟨-, -, rfl, rfl⟩ := putSubscriber_eq_ok_iff.1 put
  rfl

theorem inserted_job {scenario : ScenarioId} {spec : JobSpec} {row : Job}
    (done : s.registerJob scenario spec = (.ok row, t)) :
    t.jobs = s.jobs.insert row.id row ∧ t.subscribers = s.subscribers := by
  obtain ⟨_, -, put⟩ := registerJob_eq_ok_iff.1 done
  cases (putJob_eq_ok_iff.1 put).2 <;> exact ⟨rfl, rfl⟩

/-- The subscribers and jobs are the same. -/
structure SameQueues (s t : Store) : Prop where
  subscribers : t.subscribers = s.subscribers
  jobs : t.jobs = s.jobs

namespace SameQueues

theorem refl (s : Store) : SameQueues s s := ⟨rfl, rfl⟩

theorem trans {u : Store} (h : SameQueues s t) (k : SameQueues t u) : SameQueues s u :=
  ⟨k.subscribers.trans h.subscribers, k.jobs.trans h.jobs⟩

theorem of_frame {u : Store} (frame : t = u) (same : SameQueues s u) : SameQueues s t :=
  frame ▸ same

theorem messageType (spec : MessageTypeSpec) : Leads SameQueues fun s => s.registerMessageType spec :=
  .always fun s => of_frame (registerMessageType_frame s spec) ⟨rfl, rfl⟩

theorem publisher (scenario : ScenarioId) (spec : PublisherSpec) :
    Leads SameQueues fun s => s.registerPublisher scenario spec := by
  rintro s row t done
  obtain ⟨_, -, put⟩ := registerPublisher_eq_ok_iff.1 done
  cases (putPublisher_eq_ok_iff.1 put).2 <;> exact ⟨rfl, rfl⟩

/-- What comes before the components leaves the queues alone. -/
theorem of_begun {s s₁ s₂ s₃ : Store} {host row : Host} {runtime : HostRuntime}
    {scenario answer : Scenario} (hosted : s.registerHost host = (.ok row, s₁))
    (running : s₁.startHostRuntime runtime = (.ok (), s₂))
    (played : s₂.registerScenario scenario = (.ok answer, s₃)) : SameQueues s s₃ := by
  have first : SameQueues s s₁ := by
    cases registerHost_eq_ok_iff.1 hosted <;> exact ⟨rfl, rfl⟩
  have last : SameQueues s₂ s₃ := by
    cases (registerScenario_eq_ok_iff.1 played).2 <;> exact ⟨rfl, rfl⟩
  obtain ⟨-, -, rfl⟩ := startHostRuntime_eq_ok_iff.1 running
  exact first.trans ⟨last.subscribers, last.jobs⟩

end SameQueues

/-- Only its own list of registrations writes to the table of subscribers, or to that of jobs. -/
theorem rows_of_registered {fresh : Fresh} {scenario : ScenarioId} {subscribers : List SubscriberSpec}
    {jobs : List JobSpec} {subscriberRows : List Subscriber} {jobRows : List Job} {s₅ s₆ : Store}
    (queues : SameQueues s s₅)
    (subscribed : RegisterAll (fun spec => make fresh (.registerSubscriber scenario spec)) subscribers
      s₅ subscriberRows s₆)
    (worked : RegisterAll (fun spec => make fresh (.registerJob scenario spec)) jobs s₆ jobRows t) :
    t.subscribers = s.subscribers.insertAll Subscriber.id subscriberRows ∧
      t.jobs = s.jobs.insertAll Job.id jobRows := by
  have later : t.subscribers = s₆.subscribers :=
    worked.leads (R := fun s t => t.subscribers = s.subscribers) (fun _ => rfl)
      (fun h k => k.trans h) fun _ _ _ _ done => (inserted_job done).2
  have before : s₆.jobs = s₅.jobs :=
    subscribed.leads (R := fun s t => t.jobs = s.jobs) (fun _ => rfl) (fun h k => k.trans h)
      fun _ _ _ _ done => by
        obtain ⟨_, -, put⟩ := registerSubscriber_eq_ok_iff.1 done
        obtain ⟨-, -, rfl, rfl⟩ := putSubscriber_eq_ok_iff.1 put
        rfl
  constructor
  · rw [later, subscribed.inserts Store.subscribers inserted_subscriber, queues.subscribers]
  · rw [worked.inserts Store.jobs fun done => (inserted_job done).1, before, queues.jobs]

/-- Registering the components of a plan settles them, and sets the rows of its subscribers and jobs
one after another. -/
theorem settled_of_components {fresh : Fresh} {plan : StartupPlan} {now : Instant}
    {receipt : StartupReceipt} (h : Catalogued s)
    (done : (componentsOf fresh plan now).run s = (.ok receipt, t)) :
    Settled t plan receipt ∧ Catalogued t ∧
      t.subscribers = s.subscribers.insertAll Subscriber.id receipt.subscribers ∧
      t.jobs = s.jobs.insertAll Job.id receipt.jobs := by
  obtain ⟨hosted, running, played, typed, published, subscribed, worked⟩ :=
    componentsOf_eq_ok_iff.1 done
  rw [mapM_eq_ok_iff] at typed published subscribed worked
  -- The host and the scenario are there before the components.
  obtain ⟨found, name⟩ := host_of_registered hosted
  have queues := SameQueues.of_begun hosted running played
  have catalogued := catalogued_of_begun h hosted running played
  obtain ⟨there, -, rfl⟩ := startHostRuntime_eq_ok_iff.1 running
  obtain ⟨free, theScenario, itsName, sameHosts⟩ := scenario_of_registered played
  have queues := (queues.trans (typed.leads SameQueues.refl SameQueues.trans
    SameQueues.messageType)).trans (published.leads SameQueues.refl SameQueues.trans
    (SameQueues.publisher _))
  obtain ⟨theSubscribers, theJobs⟩ := rows_of_registered queues subscribed worked
  -- Each list settles its own components, and what is settled outlasts the next lists.
  obtain ⟨catalogued, grows₄, typesSettled⟩ :=
    typed.settles settles_messageType Grows.typeSettled catalogued
  obtain ⟨catalogued, grows₅, publishersSettled⟩ :=
    published.settles settles_publisher Grows.publisherSettled catalogued
  obtain ⟨catalogued, grows₆, subscribersSettled⟩ :=
    subscribed.settles settles_subscriber Grows.subscriberSettled catalogued
  obtain ⟨catalogued, grows₇, jobsSettled⟩ :=
    worked.settles settles_job Grows.jobSettled catalogued
  have later₅ := (grows₅.trans grows₆).trans grows₇
  have later₃ := grows₄.trans later₅
  have sameHosts := later₃.hosts.trans sameHosts
  exact ⟨{
      host := by rw [sameHosts]; exact ⟨found, name⟩
      hostThere := by rw [sameHosts]; exact there
      nameFree := by rw [nameTaken, later₃.scenarios]; exact free
      scenario := by rw [later₃.scenarios]; exact ⟨theScenario, itsName⟩
      messageTypes := settled_of_grows later₅ Grows.typeSettled typesSettled
      publishers := settled_of_grows (grows₆.trans grows₇) Grows.publisherSettled publishersSettled
      subscribers := settled_of_grows grows₇ Grows.subscriberSettled subscribersSettled
      jobs := jobsSettled
      subscriberRows := by rw [theSubscribers]; exact Table.insertAll_insertAll _ _
      jobRows := by rw [theJobs]; exact Table.insertAll_insertAll _ _ },
    catalogued, theSubscribers, theJobs⟩

theorem Settled.of_same {plan : StartupPlan} {receipt : StartupReceipt}
    (settled : Settled s plan receipt) (same : SameCatalog s t) : Settled t plan receipt where
  host := by rw [same.hosts]; exact settled.host
  hostThere := by rw [same.hosts]; exact settled.hostThere
  nameFree := by rw [nameTaken, same.scenarios]; exact settled.nameFree
  scenario := by rw [same.scenarios]; exact settled.scenario
  messageTypes := settled_of_grows (.of_same same) Grows.typeSettled settled.messageTypes
  publishers := settled_of_grows (.of_same same) Grows.publisherSettled settled.publishers
  subscribers := settled_of_grows (.of_same same) Grows.subscriberSettled settled.subscribers
  jobs := settled_of_grows (.of_same same) Grows.jobSettled settled.jobs
  subscriberRows := by rw [same.subscribers]; exact settled.subscriberRows
  jobRows := by rw [same.jobs]; exact settled.jobRows

end

end MessageBus.Store
