import MessageBus.Proofs.Catalog

/-! A startup beside its parts. What a plan asks for can also be asked for by one call after another,
each of which looks the message types up by name in the store as it is then. A startup keeps the types
that it has seen instead, and works on a copy of the store; it ends in the same way. -/
namespace MessageBus

/-- The row with which a planned instance is started. That of a job has the number that the
registration of the job gave. -/
def PlannedInstance.record? (jobs : List Job) (runtime : HostRuntimeId) (now : Instant) :
    PlannedInstance → Option InstanceRecord
  | .publisher id runner => some (.publisher (.starting runner id runtime now))
  | .subscriber id runner => some (.subscriber (.starting runner id runtime now))
  | .job name runner =>
    (jobs.find? fun job => job.name == name).map fun job =>
      .job (.starting runner job.id runtime now)

namespace Store
open StartupPlan

/-- A call as a part of a registration. -/
def make (fresh : Fresh) (call : Call) : Registering call.Answer := fun s => s.perform fresh call

/-- The calls that register what a plan consists of, up to its instances. -/
def componentsOf (fresh : Fresh) (p : StartupPlan) (now : Instant) :
    Registering StartupReceipt := do
  let host ← make fresh (.registerHost p.host)
  let runtime := p.runtimeRow host.id now
  make fresh (.startHostRuntime runtime)
  let scenario ← make fresh (.registerScenario p.scenario)
  let messageTypes ← p.messageTypes.mapM fun spec => make fresh (.registerMessageType spec)
  let publishers ← p.publishers.mapM fun spec => make fresh (.registerPublisher scenario.id spec)
  let subscribers ←
    p.subscribers.mapM fun spec => make fresh (.registerSubscriber scenario.id spec)
  let jobs ← p.jobs.mapM fun spec => make fresh (.registerJob scenario.id spec)
  return { host, runtime, scenario, messageTypes, publishers, subscribers, jobs, instances := [] }

/-- What these calls come to when all of them succeed: the answers, and the stores in between. -/
inductive ComponentsRun (fresh : Fresh) (p : StartupPlan) (now : Instant) (s : Store) :
    StartupReceipt → Store → Prop
  | intro {host scenario messageTypes publishers subscribers jobs s₁ s₂ s₃ s₄ s₅ s₆ t}
      (hosted : (make fresh (.registerHost p.host)).run s = (.ok host, s₁))
      (running : (make fresh (.startHostRuntime (p.runtimeRow host.id now))).run s₁ = (.ok (), s₂))
      (played : (make fresh (.registerScenario p.scenario)).run s₂ = (.ok scenario, s₃))
      (typed : (p.messageTypes.mapM fun spec => make fresh (.registerMessageType spec)).run s₃ =
        (.ok messageTypes, s₄))
      (published : (p.publishers.mapM fun spec =>
        make fresh (.registerPublisher scenario.id spec)).run s₄ = (.ok publishers, s₅))
      (subscribed : (p.subscribers.mapM fun spec =>
        make fresh (.registerSubscriber scenario.id spec)).run s₅ = (.ok subscribers, s₆))
      (worked : (p.jobs.mapM fun spec => make fresh (.registerJob scenario.id spec)).run s₆ =
        (.ok jobs, t)) :
      ComponentsRun fresh p now s ⟨host, p.runtimeRow host.id now, scenario, messageTypes,
        publishers, subscribers, jobs, []⟩ t

theorem componentsOf_eq_ok_iff {fresh : Fresh} {p : StartupPlan} {now : Instant} {s t : Store}
    {receipt : StartupReceipt} :
    (componentsOf fresh p now).run s = (.ok receipt, t) ↔
      ComponentsRun fresh p now s receipt t := by
  constructor
  · intro done
    unfold componentsOf at done
    obtain ⟨host, s₁, hosted, done⟩ := run_bind_eq_ok done
    obtain ⟨_, s₂, running, done⟩ := run_bind_eq_ok done
    obtain ⟨scenario, s₃, played, done⟩ := run_bind_eq_ok done
    obtain ⟨messageTypes, s₄, typed, done⟩ := run_bind_eq_ok done
    obtain ⟨publishers, s₅, published, done⟩ := run_bind_eq_ok done
    obtain ⟨subscribers, s₆, subscribed, done⟩ := run_bind_eq_ok done
    obtain ⟨jobs, s₇, worked, done⟩ := run_bind_eq_ok done
    cases done
    exact .intro hosted running played typed published subscribed worked
  · rintro ⟨hosted, running, played, typed, published, subscribed, worked⟩
    unfold componentsOf
    rw [run_bind_of_ok hosted, run_bind_of_ok running, run_bind_of_ok played, run_bind_of_ok typed,
      run_bind_of_ok published, run_bind_of_ok subscribed, run_bind_of_ok worked]
    rfl

section
variable {α β γ δ : Type}

/-- Two registrations end alike: both fail with one error, or both succeed in one store, with
answers that are related there. -/
inductive EndsAs (R : α → β → Store → Prop) : Result α → Result β → Prop
  | ok {a b s} (related : R a b s) : EndsAs R (.ok a, s) (.ok b, s)
  | error {e s t} : EndsAs R (.error e, s) (.error e, t)

variable {R : α → β → Store → Prop} {Q : γ → δ → Store → Prop}

theorem EndsAs.same (m : Registering α) (s : Store) :
    EndsAs (fun a b t => a = b ∧ m.run s = (.ok a, t)) (m.run s) (m.run s) := by
  generalize ends : m.run s = result
  match result with
  | (.ok a, t) => exact .ok ⟨rfl, rfl⟩
  | (.error e, t) => exact .error

theorem EndsAs.bind {m : Registering α} {n : Registering β} {f : α → Registering γ}
    {g : β → Registering δ} {s : Store} (first : EndsAs R (m.run s) (n.run s))
    (next : ∀ a b t, R a b t → EndsAs Q ((f a).run t) ((g b).run t)) :
    EndsAs Q ((m >>= f).run s) ((n >>= g).run s) := by
  generalize here : m.run s = x at first
  generalize there : n.run s = y at first
  cases first with
  | ok related =>
    rw [run_bind_of_ok here, run_bind_of_ok there]
    exact next _ _ _ related
  | error =>
    rw [run_bind_of_error here, run_bind_of_error there]
    exact .error

theorem EndsAs.mono {P : α → β → Store → Prop} {x : Result α} {y : Result β}
    (h : EndsAs R x y) (le : ∀ a b s, R a b s → P a b s) : EndsAs P x y := by
  cases h with
  | ok related => exact .ok (le _ _ _ related)
  | error => exact .error

end

/-! Message types by name. -/

section
variable {s t : Store} {name : String}

theorem name_of_messageTypeByName? {row : MessageType}
    (found : s.messageTypeByName? name = some row) : row.name = name := by
  simpa using List.find?_some found

/-- What is found by name is found so from then on. -/
def KeepsNames (s t : Store) : Prop :=
  ∀ name row, s.messageTypeByName? name = some row → t.messageTypeByName? name = some row

theorem KeepsNames.of_same (same : t.messageTypes = s.messageTypes) : KeepsNames s t := by
  intro name row found
  unfold messageTypeByName?
  rw [same]
  exact found

theorem messageTypeByName?_of_insert {row : MessageType} {key : MessageTypeId}
    (unused : s.messageTypes.get? key = none) (made : t.messageTypes = s.messageTypes.insert key row)
    (name : String) : t.messageTypeByName? name =
      (s.messageTypeByName? name).or (if row.name = name then some row else none) := by
  unfold messageTypeByName?
  rw [made, Table.values_insert_of_new unused, List.find?_append]
  congr 1
  by_cases same : row.name = name
  · simp [same]
  · simp [same]

/-- A type is found by its name from its registration on, since the number of a new one was not in
use. -/
theorem found_of_registered {spec : MessageTypeSpec} {row : MessageType} (h : Catalogued s)
    (done : s.registerMessageType spec = (.ok row, t)) :
    t.messageTypeByName? spec.name = some row ∧ KeepsNames s t := by
  cases (registerMessageType_eq_ok_iff.1 done).2 with
  | stored there => exact ⟨there, fun _ _ found => found⟩
  | new unknown =>
    refine ⟨?_, ?_⟩
    · rw [messageTypeByName?_of_insert h.typeUnused rfl, unknown]
      simp
    · intro name row found
      rw [messageTypeByName?_of_insert h.typeUnused rfl, found]
      rfl

end

/-! The parts of a plan, with the types seen so far and without them. -/

/-- The message types that a registration has seen are those of the store. -/
def Known (s : Store) (known : KnownTypes) : Prop :=
  ∀ name id, known.lookup name = some id → ∃ row, s.messageTypeByName? name = some row ∧ row.id = id

theorem Known.cons {s : Store} {known : KnownTypes} {row : MessageType} (h : Known s known)
    (found : s.messageTypeByName? row.name = some row) :
    Known s ((row.name, row.id) :: known) := by
  intro name id seen
  by_cases same : name = row.name
  · subst same
    rw [List.lookup_cons_self] at seen
    cases seen
    exact ⟨row, found, rfl⟩
  · have other : (name == row.name) = false := by simpa using same
    rw [List.lookup_cons, other] at seen
    exact h name id seen

theorem Known.keeps {s t : Store} {known : KnownTypes} (h : Known s known) (keeps : KeepsNames s t) :
    Known t known := by
  intro name id seen
  obtain ⟨row, found, same⟩ := h name id seen
  exact ⟨row, keeps name row found, same⟩

def typeNamed (name : String) : Registering MessageType := fun s => (s.messageTypeNamed name, s)

def typeNamed? (name : Option String) : Registering (Option MessageType) := fun s =>
  (name.mapM s.messageTypeNamed, s)

section
variable {s : Store} {known : KnownTypes} (h : Known s known)
include h

theorem resolveType_endsAs (name : String) :
    EndsAs (fun a row t => a.1 = row.id ∧ t = s ∧ Known t a.2)
      ((resolveType registrar known name).run s) ((typeNamed name).run s) := by
  unfold resolveType
  cases seen : known.lookup name with
  | some id =>
    obtain ⟨row, found, rfl⟩ := h name id seen
    have named : (typeNamed name).run s = (.ok row, s) := by
      change (s.messageTypeNamed name, s) = _
      rw [messageTypeNamed, found]
    rw [named]
    exact .ok ⟨rfl, rfl, h⟩
  | none =>
    have looked : (registrar.messageTypeByName name).run s = (.ok (s.messageTypeByName? name), s) :=
      rfl
    have named : (typeNamed name).run s = (s.messageTypeNamed name, s) := rfl
    rw [run_bind_of_ok looked, named, messageTypeNamed]
    cases found : s.messageTypeByName? name with
    | none => exact .error
    | some row =>
      have same := name_of_messageTypeByName? found
      exact .ok ⟨rfl, rfl, h.cons (same ▸ found)⟩

theorem resolveType?_endsAs (name : Option String) :
    EndsAs (fun a row t => a.1 = row.map MessageType.id ∧ t = s ∧ Known t a.2)
      ((resolveType? registrar known name).run s) ((typeNamed? name).run s) := by
  cases name with
  | none => exact .ok ⟨rfl, rfl, h⟩
  | some name =>
    have named : (typeNamed? (some name)).run s =
        (typeNamed name >>= fun row => pure (some row)).run s := by
      change ((some name).mapM s.messageTypeNamed, s) = _
      have one : (typeNamed name).run s = (s.messageTypeNamed name, s) := rfl
      rw [run_bind, one, Option.mapM_some]
      cases s.messageTypeNamed name with
      | error e => rfl
      | ok row => rfl
    rw [named]
    refine (resolveType_endsAs h name).bind ?_
    rintro ⟨id, known⟩ row t ⟨rfl, same, known⟩
    exact .ok ⟨rfl, same, known⟩

end

theorem run_typeNamed_bind {α : Type} (name : String) (put : MessageType → Registering α)
    (s : Store) : (typeNamed name >>= put).run s =
      match s.messageTypeNamed name with
      | .error e => (.error e, s)
      | .ok type => (put type).run s := by
  have named : (typeNamed name).run s = (s.messageTypeNamed name, s) := rfl
  rw [run_bind, named]
  cases s.messageTypeNamed name with
  | error e => rfl
  | ok type => rfl

section
variable (fresh : Fresh) (scenario : ScenarioId)

theorem make_registerPublisher (spec : PublisherSpec) :
    make fresh (.registerPublisher scenario spec) = typeNamed spec.messageType >>= fun type =>
      registrar.publisher ⟨spec.id, spec.name, scenario, type.id⟩ := by
  funext s
  refine Eq.trans ?_ (run_typeNamed_bind spec.messageType _ s).symm
  rfl

theorem make_registerSubscriber (spec : SubscriberSpec) :
    make fresh (.registerSubscriber scenario spec) = typeNamed spec.messageType >>= fun type =>
      registrar.subscriber ⟨spec.id, spec.name, scenario, type.id, spec.policy⟩ := by
  funext s
  refine Eq.trans ?_ (run_typeNamed_bind spec.messageType _ s).symm
  rfl

theorem make_registerJob (spec : JobSpec) :
    make fresh (.registerJob scenario spec) = typeNamed? spec.messageType >>= fun type =>
      registrar.job ⟨⟨0⟩, spec.name, scenario, type.map MessageType.id, spec.policy⟩ := by
  funext s
  change s.registerJob scenario spec = (_ >>= _ : Registering _).run s
  have named : (typeNamed? spec.messageType).run s = (spec.messageType.mapM s.messageTypeNamed, s) :=
    rfl
  rw [run_bind, named, registerJob]
  cases spec.messageType.mapM s.messageTypeNamed with
  | error e => rfl
  | ok type => rfl

end

/-- What is kept while the components of a plan are registered. -/
structure Registers (s : Store) (known : KnownTypes) : Prop where
  catalogued : Catalogued s
  known : Known s known

section
variable {s t : Store} {known : KnownTypes} (h : Registers s known)
include h

theorem Registers.publisher {row answer : Publisher} (done : s.putPublisher row = (.ok answer, t)) :
    Registers t known ∧ answer.id = row.id := by
  refine ⟨⟨h.catalogued.publisher done, h.known.keeps (.of_same ?_)⟩, ?_⟩
  · cases (putPublisher_eq_ok_iff.1 done).2 <;> rfl
  · cases (putPublisher_eq_ok_iff.1 done).2 with
    | stored there => exact h.catalogued.publisherKeys _ _ there
    | new => rfl

theorem Registers.subscriber {row answer : Subscriber}
    (done : s.putSubscriber row = (.ok answer, t)) : Registers t known ∧ answer.id = row.id := by
  have after := h.catalogued.subscriber done
  obtain ⟨-, -, rfl, rfl⟩ := putSubscriber_eq_ok_iff.1 done
  exact ⟨⟨after, h.known.keeps (.of_same rfl)⟩, rfl⟩

theorem Registers.job {row answer : Job} (done : s.putJob row = (.ok answer, t)) :
    Registers t known ∧ answer.name = row.name := by
  refine ⟨⟨h.catalogued.job done, h.known.keeps (.of_same ?_)⟩, ?_⟩
  · cases (putJob_eq_ok_iff.1 done).2 <;> rfl
  · cases (putJob_eq_ok_iff.1 done).2 with
    | stored found => exact (jobNamed?_eq_some h.catalogued.jobKeys found).2.2
    | new => rfl

theorem Registers.messageType {spec : MessageTypeSpec} {row : MessageType}
    (done : s.registerMessageType spec = (.ok row, t)) :
    Registers t ((row.name, row.id) :: known) := by
  obtain ⟨found, keeps⟩ := found_of_registered h.catalogued done
  have known := (h.known.keeps keeps).cons (name_of_messageTypeByName? found ▸ found)
  exact ⟨h.catalogued.messageType done, known⟩

variable (fresh : Fresh)

theorem registerTypes_endsAs (specs : List MessageTypeSpec) :
    EndsAs (fun a rows t => a.1 = rows ∧ Registers t a.2)
      ((registerTypes registrar known specs).run s)
      ((specs.mapM fun spec => make fresh (.registerMessageType spec)).run s) := by
  induction specs generalizing known s with
  | nil => exact .ok ⟨rfl, h⟩
  | cons spec specs ih =>
    rw [List.mapM_cons]
    refine (EndsAs.same _ _).bind ?_
    rintro row _ t ⟨rfl, done⟩
    refine (ih (h.messageType done)).bind ?_
    rintro ⟨rows, known⟩ _ u ⟨rfl, last⟩
    exact .ok ⟨rfl, last⟩

variable (scenario : ScenarioId)

theorem registerPublishers_endsAs (specs : List PublisherSpec) :
    EndsAs (fun a rows t => a.1 = rows ∧ Registers t a.2 ∧
        rows.map Publisher.id = specs.map PublisherSpec.id)
      ((registerPublishers registrar scenario known specs).run s)
      ((specs.mapM fun spec => make fresh (.registerPublisher scenario spec)).run s) := by
  induction specs generalizing known s with
  | nil => exact .ok ⟨rfl, h, rfl⟩
  | cons spec specs ih =>
    rw [List.mapM_cons, make_registerPublisher, bind_assoc]
    refine (resolveType_endsAs h.known spec.messageType).bind ?_
    rintro ⟨id, seen⟩ type s ⟨rfl, rfl, resolved⟩
    refine (EndsAs.same _ _).bind ?_
    rintro row _ t ⟨rfl, done⟩
    obtain ⟨next, same⟩ := Registers.publisher ⟨h.catalogued, resolved⟩ done
    refine (ih next).bind ?_
    rintro ⟨rows, known⟩ _ u ⟨rfl, last, ids⟩
    exact .ok ⟨rfl, last, congr (congrArg List.cons same) ids⟩

theorem registerSubscribers_endsAs (specs : List SubscriberSpec) :
    EndsAs (fun a rows t => a.1 = rows ∧ Registers t a.2 ∧
        rows.map Subscriber.id = specs.map SubscriberSpec.id)
      ((registerSubscribers registrar scenario known specs).run s)
      ((specs.mapM fun spec => make fresh (.registerSubscriber scenario spec)).run s) := by
  induction specs generalizing known s with
  | nil => exact .ok ⟨rfl, h, rfl⟩
  | cons spec specs ih =>
    rw [List.mapM_cons, make_registerSubscriber, bind_assoc]
    refine (resolveType_endsAs h.known spec.messageType).bind ?_
    rintro ⟨id, seen⟩ type s ⟨rfl, rfl, resolved⟩
    refine (EndsAs.same _ _).bind ?_
    rintro row _ t ⟨rfl, done⟩
    obtain ⟨next, same⟩ := Registers.subscriber ⟨h.catalogued, resolved⟩ done
    refine (ih next).bind ?_
    rintro ⟨rows, known⟩ _ u ⟨rfl, last, ids⟩
    exact .ok ⟨rfl, last, congr (congrArg List.cons same) ids⟩

theorem registerJobs_endsAs (specs : List JobSpec) :
    EndsAs (fun a rows _ => a = rows ∧ rows.map Job.name = specs.map JobSpec.name)
      ((registerJobs registrar scenario known specs).run s)
      ((specs.mapM fun spec => make fresh (.registerJob scenario spec)).run s) := by
  induction specs generalizing known s with
  | nil => exact .ok ⟨rfl, rfl⟩
  | cons spec specs ih =>
    rw [List.mapM_cons, make_registerJob, bind_assoc]
    refine (resolveType?_endsAs h.known spec.messageType).bind ?_
    rintro ⟨id, seen⟩ type s ⟨rfl, rfl, resolved⟩
    refine (EndsAs.same _ _).bind ?_
    rintro row _ t ⟨rfl, done⟩
    obtain ⟨next, same⟩ := Registers.job ⟨h.catalogued, resolved⟩ done
    refine (ih next).bind ?_
    rintro rows _ u ⟨rfl, names⟩
    exact .ok ⟨rfl, congr (congrArg List.cons same) names⟩

end

/-! A whole plan. -/

/-- The rows of a receipt are those of the components of a plan. -/
structure AnswersFor (plan : StartupPlan) (receipt : StartupReceipt) : Prop where
  publishers : receipt.publishers.map Publisher.id = plan.publishers.map PublisherSpec.id
  subscribers : receipt.subscribers.map Subscriber.id = plan.subscribers.map SubscriberSpec.id
  jobs : receipt.jobs.map Job.name = plan.jobs.map JobSpec.name

/-- The row of a planned instance, among the components of a receipt. -/
def recordFor (receipt : StartupReceipt) (now : Instant) :
    PlannedInstance → Except StoreError InstanceRecord :=
  plannedRecord receipt.publishers receipt.subscribers receipt.jobs receipt.runtime.id now

/-- The last part of a startup. -/
def startPlanned (plan : StartupPlan) (now : Instant) (receipt : StartupReceipt) :
    Registering StartupReceipt := do
  let instances ← startInstances registrar (recordFor receipt now) plan.instances
  return { receipt with instances }

/-- What comes before the components leaves the catalog as sound as it was. -/
theorem catalogued_of_begun {s s₁ s₂ s₃ : Store} (h : Catalogued s) {host row : Host}
    {runtime : HostRuntime} {scenario answer : Scenario}
    (hosted : s.registerHost host = (.ok row, s₁))
    (running : s₁.startHostRuntime runtime = (.ok (), s₂))
    (played : s₂.registerScenario scenario = (.ok answer, s₃)) : Catalogued s₃ := by
  have runs := SameCatalog.startHostRuntime s₁ runtime
  rw [running] at runs
  exact ((h.host hosted).of_same runs).scenario played

/-- A startup ends like the calls for its components and then something else, if this ends like its
last part. -/
theorem carryOut_endsAs {β : Type} {R : StartupReceipt → β → Store → Prop} {s : Store}
    (h : Catalogued s) (fresh : Fresh) (plan : StartupPlan) (now : Instant)
    {last : StartupReceipt → Registering β}
    (ends : ∀ receipt t, AnswersFor plan receipt →
      EndsAs R ((startPlanned plan now receipt).run t) ((last receipt).run t)) :
    EndsAs R ((plan.carryOut registrar now).run s)
      ((componentsOf fresh plan now >>= last).run s) := by
  unfold carryOut componentsOf
  simp only [bind_assoc, pure_bind]
  refine (EndsAs.same _ _).bind ?_
  rintro host _ s₁ ⟨rfl, hosted⟩
  refine (EndsAs.same _ _).bind ?_
  rintro _ _ s₂ ⟨rfl, running⟩
  refine (EndsAs.same _ _).bind ?_
  rintro scenario _ s₃ ⟨rfl, played⟩
  have none : Registers s₃ [] := ⟨catalogued_of_begun h hosted running played, nofun⟩
  refine (registerTypes_endsAs none fresh plan.messageTypes).bind ?_
  rintro ⟨types, seen⟩ _ s₄ ⟨rfl, typed⟩
  refine (registerPublishers_endsAs typed fresh scenario.id plan.publishers).bind ?_
  rintro ⟨publishers, seen⟩ _ s₅ ⟨rfl, published, publisherIds⟩
  refine (registerSubscribers_endsAs published fresh scenario.id plan.subscribers).bind ?_
  rintro ⟨subscribers, seen⟩ _ s₆ ⟨rfl, subscribed, subscriberIds⟩
  refine (registerJobs_endsAs subscribed fresh scenario.id plan.jobs).bind ?_
  rintro jobs _ s₇ ⟨rfl, jobNames⟩
  exact ends ⟨host, plan.runtimeRow host.id now, scenario, types, publishers, subscribers, jobs, []⟩
    s₇ ⟨publisherIds, subscriberIds, jobNames⟩

/-- A second process on the host of the first one. It brings a message type, which its plan names
twice, and a job that is run by two instances. -/
def secondProcess : StartupPlan where
  host := ⟨⟨.ofNat 1⟩, "host"⟩
  runtime := ⟨.ofNat 20⟩
  userName := "user"
  machineName := "machine"
  scenario := ⟨⟨.ofNat 3⟩, "scenario"⟩
  messageTypes := [⟨"type", "Type"⟩, ⟨"other", "Other"⟩, ⟨"other", "Other"⟩]
  publishers := [⟨⟨.ofNat 4⟩, "publisher", "type"⟩, ⟨⟨.ofNat 21⟩, "publisher", "other"⟩]
  subscribers := [⟨⟨.ofNat 5⟩, "subscriber", "type", .inOrder (.ofSecs 1)⟩]
  jobs := [⟨"job", some "other", .default⟩, ⟨"job", some "other", .inOrder (.ofSecs 2)⟩]
  instances := [.publisher ⟨.ofNat 21⟩ ⟨.ofNat 22⟩, .job "job" ⟨.ofNat 23⟩, .job "job" ⟨.ofNat 24⟩]

end Store
end MessageBus
