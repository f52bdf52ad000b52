import MessageBus.Proofs.Delivery

/-! The catalog. Only registrations write to it, and each has here the ways in which it can succeed.
What these ways keep holds in every store: rows stand under their own keys, and message types and
jobs are numbered in the order in which they were registered, so that the next number is free. -/
namespace MessageBus.Store

/-- The tables of hosts, scenarios, message types and components are the same, with the numbers given
out last. -/
structure SameCatalog (s t : Store) : Prop where
  hosts : t.hosts = s.hosts
  scenarios : t.scenarios = s.scenarios
  messageTypes : t.messageTypes = s.messageTypes
  publishers : t.publishers = s.publishers
  subscribers : t.subscribers = s.subscribers
  jobs : t.jobs = s.jobs
  lastMessageType : t.lastMessageType = s.lastMessageType
  lastJob : t.lastJob = s.lastJob

namespace SameCatalog

theorem refl (s : Store) : SameCatalog s s := ⟨rfl, rfl, rfl, rfl, rfl, rfl, rfl, rfl⟩

theorem trans {s t u : Store} (h : SameCatalog s t) (k : SameCatalog t u) : SameCatalog s u where
  hosts := k.hosts.trans h.hosts
  scenarios := k.scenarios.trans h.scenarios
  messageTypes := k.messageTypes.trans h.messageTypes
  publishers := k.publishers.trans h.publishers
  subscribers := k.subscribers.trans h.subscribers
  jobs := k.jobs.trans h.jobs
  lastMessageType := k.lastMessageType.trans h.lastMessageType
  lastJob := k.lastJob.trans h.lastJob

theorem symm {s t : Store} (h : SameCatalog s t) : SameCatalog t s where
  hosts := h.hosts.symm
  scenarios := h.scenarios.symm
  messageTypes := h.messageTypes.symm
  publishers := h.publishers.symm
  subscribers := h.subscribers.symm
  jobs := h.jobs.symm
  lastMessageType := h.lastMessageType.symm
  lastJob := h.lastJob.symm

theorem of_frame {s t u : Store} (frame : t = u) (same : SameCatalog s u) : SameCatalog s t :=
  frame ▸ same

theorem putInstance (s : Store) (record : InstanceRecord) :
    SameCatalog s (s.putInstance record) :=
  of_frame (putInstance_frame s record) ⟨rfl, rfl, rfl, rfl, rfl, rfl, rfl, rfl⟩

theorem startInstance (s : Store) (record : InstanceRecord) :
    SameCatalog s (s.startInstance record).2 :=
  of_frame (startInstance_frame s record) ⟨rfl, rfl, rfl, rfl, rfl, rfl, rfl, rfl⟩

theorem startHostRuntime (s : Store) (runtime : HostRuntime) :
    SameCatalog s (s.startHostRuntime runtime).2 :=
  of_frame (startHostRuntime_frame s runtime) ⟨rfl, rfl, rfl, rfl, rfl, rfl, rfl, rfl⟩

end SameCatalog

theorem perform_sameCatalog {call : Call} (h : call.isRegistration = false) (s : Store)
    (fresh : Fresh) : SameCatalog s (s.perform fresh call).2 := by
  have confined := perform_confined s fresh call
  cases call with
  | startUp | registerHost | startHostRuntime | registerScenario | registerMessageType
  | registerPublisher | registerSubscriber | registerJob => cases h
  | _ => exact .of_frame confined ⟨rfl, rfl, rfl, rfl, rfl, rfl, rfl, rfl⟩

/-! How registrations succeed. -/

theorem attempt_eq_ok_iff {α : Type} {s t : Store} {outcome : Except StoreError (α × Store)}
    {a : α} : s.attempt outcome = (.ok a, t) ↔ outcome = .ok (a, t) := by
  match outcome with
  | .ok (b, u) => simp
  | .error e => simp

@[simp] theorem pure_eq_ok_iff {α : Type} {a b : α} :
    (pure a : Except StoreError α) = .ok b ↔ a = b := by
  simp [pure, Except.pure]

@[simp] theorem throw_ne_ok {α : Type} {e : StoreError} {a : α} :
    (throw e : Except StoreError α) ≠ .ok a := nofun

@[simp] theorem bind_eq_ok_iff {α β : Type} {x : Except StoreError α} {f : α → Except StoreError β}
    {b : β} : x >>= f = .ok b ↔ ∃ a, x = .ok a ∧ f a = .ok b := by
  cases x with
  | error e => simp [bind, Except.bind]
  | ok a => simp [bind, Except.bind]

@[simp] theorem map_eq_ok_iff {α β : Type} {x : Except StoreError α} {f : α → β} {b : β} :
    f <$> x = .ok b ↔ ∃ a, x = .ok a ∧ f a = b := by
  rw [map_eq_pure_bind, bind_eq_ok_iff]
  simp only [pure_eq_ok_iff]

@[simp] theorem ensureSame_eq_ok_iff {α : Type} [DecidableEq α] [Shown α] {entity key field : String}
    {stored requested : α} {u : Unit} :
    ensureSame entity key field stored requested = .ok u ↔ stored = requested := by
  unfold ensureSame
  split <;> simp_all

/-- How a row is registered that is made once: it is there and agrees, or it is new. -/
inductive Registered {α : Type} (found : Option α) (agrees : α → Prop) (new : α) (s after : Store) :
    α → Store → Prop
  | stored {row} (there : found = some row) (same : agrees row) :
      Registered found agrees new s after row s
  | new (unknown : found = none) : Registered found agrees new s after new after

section
variable {α : Type} {agrees : α → Prop} {new row : α} {s after t : Store}

@[simp] theorem registered_some_iff {stored : α} :
    Registered (some stored) agrees new s after row t ↔ agrees stored ∧ stored = row ∧ s = t := by
  constructor
  · intro h
    cases h with
    | stored there same =>
      cases there
      exact ⟨same, rfl, rfl⟩
    | new unknown => cases unknown
  · rintro ⟨same, rfl, rfl⟩
    exact .stored rfl same

@[simp] theorem registered_none_iff :
    Registered none agrees new s after row t ↔ new = row ∧ after = t := by
  constructor
  · intro h
    cases h with
    | stored there => cases there
    | new => exact ⟨rfl, rfl⟩
  · rintro ⟨rfl, rfl⟩
    exact .new rfl

end

section
variable {s t : Store}

theorem registerHost_eq_ok_iff {host row : Host} :
    s.registerHost host = (.ok row, t) ↔
      Registered (s.hosts.get? host.id) (fun stored => stored.name = host.name) host s
        { s with hosts := s.hosts.insert host.id host } row t := by
  rw [registerHost, attempt_eq_ok_iff]
  cases s.hosts.get? host.id with
  | none => simp
  | some stored => simp

/-- Another scenario has the name. -/
def nameTaken (s : Store) (scenario : Scenario) : Bool :=
  s.scenarios.values.any fun row => row.name == scenario.name && row.id != scenario.id

theorem registerScenario_eq_ok_iff {scenario row : Scenario} :
    s.registerScenario scenario = (.ok row, t) ↔ s.nameTaken scenario = false ∧
      Registered (s.scenarios.get? scenario.id) (fun stored => stored.name = scenario.name) scenario
        s { s with scenarios := s.scenarios.insert scenario.id scenario } row t := by
  rw [registerScenario, attempt_eq_ok_iff, nameTaken]
  cases s.scenarios.values.any fun row => row.name == scenario.name && row.id != scenario.id with
  | true => simp
  | false =>
    cases s.scenarios.get? scenario.id with
    | none => simp
    | some stored => simp

theorem registerMessageType_eq_ok_iff {spec : MessageTypeSpec} {row : MessageType} :
    s.registerMessageType spec = (.ok row, t) ↔
      (s.messageTypeByName? spec.name = none → s.lastMessageType ≠ Int32.maxValue) ∧
      Registered (s.messageTypeByName? spec.name) (fun stored => stored.typeName = spec.typeName)
        ⟨⟨s.lastMessageType + 1⟩, spec.name, spec.typeName⟩ s
        { s with
          messageTypes := s.messageTypes.insert ⟨s.lastMessageType + 1⟩
            ⟨⟨s.lastMessageType + 1⟩, spec.name, spec.typeName⟩
          lastMessageType := s.lastMessageType + 1 } row t := by
  rw [registerMessageType, attempt_eq_ok_iff]
  cases s.messageTypeByName? spec.name with
  | none => simp [nextNumber_eq_ok_iff, and_assoc]
  | some stored => simp

/-- The scenario of a component is there, and so is its message type if it has one. -/
structure HasParts (s : Store) (scenario : ScenarioId) (messageType : Option MessageTypeId) :
    Prop where
  scenario : ∃ row, s.scenarios.get? scenario = some row
  messageType : ∀ id, messageType = some id → ∃ row, s.messageTypes.get? id = some row

theorem hasParts_none_iff {scenario : ScenarioId} :
    s.HasParts scenario none ↔ ∃ row, s.scenarios.get? scenario = some row :=
  ⟨HasParts.scenario, fun there => ⟨there, nofun⟩⟩

theorem hasParts_some_iff {scenario : ScenarioId} {messageType : MessageTypeId} :
    s.HasParts scenario (some messageType) ↔
      (∃ row, s.scenarios.get? scenario = some row) ∧
        ∃ row, s.messageTypes.get? messageType = some row := by
  constructor
  · rintro ⟨scenario, messageType⟩
    exact ⟨scenario, messageType _ rfl⟩
  · rintro ⟨scenario, messageType⟩
    refine ⟨scenario, ?_⟩
    rintro _ ⟨⟩
    exact messageType

theorem putPublisher_eq_ok_iff {row answer : Publisher} :
    s.putPublisher row = (.ok answer, t) ↔ s.HasParts row.scenario (some row.messageType) ∧
      Registered (s.publishers.get? row.id)
        (fun stored => stored.name = row.name ∧ stored.scenario = row.scenario ∧
          stored.messageType = row.messageType)
        row s { s with publishers := s.publishers.insert row.id row } answer t := by
  rw [putPublisher, attempt_eq_ok_iff, hasParts_some_iff]
  simp only [bind_eq_ok_iff, require_eq_ok_iff]
  cases s.publishers.get? row.id with
  | none => simp [and_assoc]
  | some stored => simp [and_assoc]

theorem putSubscriber_eq_ok_iff {row answer : Subscriber} :
    s.putSubscriber row = (.ok answer, t) ↔ s.HasParts row.scenario (some row.messageType) ∧
      (∀ stored, s.subscribers.get? row.id = some stored → stored.name = row.name ∧
        stored.scenario = row.scenario ∧ stored.messageType = row.messageType) ∧
      answer = row ∧ t = { s with subscribers := s.subscribers.insert row.id row } := by
  rw [putSubscriber, attempt_eq_ok_iff, hasParts_some_iff]
  simp only [bind_eq_ok_iff, require_eq_ok_iff]
  cases s.subscribers.get? row.id with
  | none => simp [and_assoc, eq_comm (b := answer), eq_comm (b := t)]
  | some stored => simp [and_assoc, eq_comm (b := answer), eq_comm (b := t)]

/-- How a job is registered, given that its message type is there. -/
inductive JobPut (s : Store) (row : Job) : Job → Store → Prop
  | stored {stored} (found : s.jobNamed? row.scenario row.name = some stored)
      (messageType : stored.messageType = row.messageType) :
      JobPut s row { stored with policy := row.policy }
        { s with jobs := s.jobs.insert stored.id { stored with policy := row.policy } }
  | new (unknown : s.jobNamed? row.scenario row.name = none) (more : s.lastJob ≠ Int32.maxValue) :
      JobPut s row { row with id := ⟨s.lastJob + 1⟩ }
        { s with
          jobs := s.jobs.insert ⟨s.lastJob + 1⟩ { row with id := ⟨s.lastJob + 1⟩ }
          lastJob := s.lastJob + 1 }

theorem jobPut_iff_of_known {row answer stored : Job}
    (found : s.jobNamed? row.scenario row.name = some stored) :
    JobPut s row answer t ↔ stored.messageType = row.messageType ∧
      { stored with policy := row.policy } = answer ∧
      { s with jobs := s.jobs.insert stored.id { stored with policy := row.policy } } = t := by
  constructor
  · intro h
    cases h with
    | stored there messageType =>
      cases found.symm.trans there
      exact ⟨messageType, rfl, rfl⟩
    | new unknown => cases found.symm.trans unknown
  · rintro ⟨messageType, rfl, rfl⟩
    exact .stored found messageType

theorem jobPut_iff_of_unknown {row answer : Job}
    (unknown : s.jobNamed? row.scenario row.name = none) :
    JobPut s row answer t ↔ s.lastJob ≠ Int32.maxValue ∧
      { row with id := ⟨s.lastJob + 1⟩ } = answer ∧
      { s with
        jobs := s.jobs.insert ⟨s.lastJob + 1⟩ { row with id := ⟨s.lastJob + 1⟩ }
        lastJob := s.lastJob + 1 } = t := by
  constructor
  · intro h
    cases h with
    | stored found => cases unknown.symm.trans found
    | new _ more => exact ⟨more, rfl, rfl⟩
  · rintro ⟨more, rfl, rfl⟩
    exact .new unknown more

theorem putJob_eq_ok_iff {row answer : Job} :
    s.putJob row = (.ok answer, t) ↔ s.HasParts row.scenario row.messageType ∧
      JobPut s row answer t := by
  rw [putJob, attempt_eq_ok_iff]
  cases named : s.jobNamed? row.scenario row.name with
  | none =>
    rw [jobPut_iff_of_unknown named]
    cases row.messageType with
    | none => simp [require_eq_ok_iff, nextNumber_eq_ok_iff, hasParts_none_iff, and_assoc]
    | some id => simp [require_eq_ok_iff, nextNumber_eq_ok_iff, hasParts_some_iff, and_assoc]
  | some stored =>
    rw [jobPut_iff_of_known named]
    cases row.messageType with
    | none => simp [require_eq_ok_iff, hasParts_none_iff]
    | some id => simp [require_eq_ok_iff, hasParts_some_iff, and_assoc]

end

/-! What every store is like. -/

/-- Writes to the catalog lead to related stores when each of them does and nothing else tells
stores apart. -/
theorem writesLead_of_same {R : Store → Store → Prop} (same : ∀ {s t}, SameCatalog s t → R s t)
    (trans : ∀ {s t u}, R s t → R t u → R s u)
    (host : ∀ host, Leads R (registrar.host host))
    (scenario : ∀ scenario, Leads R (registrar.scenario scenario))
    (messageType : ∀ spec, Leads R (registrar.messageType spec))
    (publisher : ∀ row, Leads R (registrar.publisher row))
    (subscriber : ∀ row, Leads R (registrar.subscriber row))
    (job : ∀ row, Leads R (registrar.job row)) : WritesLead R registrar where
  refl s := same (.refl s)
  trans := trans
  host := host
  hostRuntime runtime := .always fun s => same (.startHostRuntime s runtime)
  scenario := scenario
  messageType := messageType
  messageTypeByName _ := .always fun s => same (.refl s)
  publisher := publisher
  subscriber := subscriber
  job := job
  start record := .always fun s => same (.startInstance s record)

/-- Every call leads to a related store. -/
theorem perform_leads {R : Store → Store → Prop} (w : WritesLead R registrar)
    (same : ∀ {s t}, SameCatalog s t → R s t) (s : Store) (fresh : Fresh) (call : Call) :
    R s (s.perform fresh call).2 := by
  cases registration : call.isRegistration with
  | true => exact registration_leads w registration s fresh
  | false => exact same (perform_sameCatalog registration s fresh)

/-- Keys that are numbers, given out in order from one on; `last` is the last of them. -/
structure Numbered {κ : Type} (number : Int32 → κ) (keys : List κ) (last : Int32) : Prop where
  few : keys.length < 2_147_483_648
  last_eq : last = .ofNat keys.length
  keys_eq : keys = (List.range keys.length).map fun n => number (.ofNat (n + 1))

namespace Numbered
variable {κ : Type} {number : Int32 → κ} {keys : List κ} {last : Int32}

theorem succ_last (h : Numbered number keys last) : last + 1 = .ofNat (keys.length + 1) := by
  rw [h.last_eq, Int32.ofNat_add]
  rfl

/-- As long as the largest number has not been given out, there is one more. -/
theorem few_succ (h : Numbered number keys last) (more : last ≠ Int32.maxValue) :
    keys.length + 1 < 2_147_483_648 := by
  have few := h.few
  have notAll : keys.length ≠ 2_147_483_647 := fun all =>
    more (h.last_eq.trans (congrArg Int32.ofNat all))
  omega

theorem concat (h : Numbered number keys last) (more : last ≠ Int32.maxValue) :
    Numbered number (keys ++ [number (last + 1)]) (last + 1) where
  few := by
    rw [List.length_append, List.length_singleton]
    exact h.few_succ more
  last_eq := by rw [List.length_append, List.length_singleton, h.succ_last]
  keys_eq := by
    rw [List.length_append, List.length_singleton, List.range_succ, List.map_append, ← h.keys_eq,
      h.succ_last]
    rfl

theorem ofNat_ne {m n : Nat} (below : m < n) (room : n < m + Int32.size) :
    Int32.ofNat m ≠ Int32.ofNat n := by
  intro same
  have toNat := congrArg BitVec.toNat (congrArg Int32.toBitVec same)
  rw [Int32.toBitVec_ofNat', Int32.toBitVec_ofNat', BitVec.toNat_ofNat, BitVec.toNat_ofNat] at toNat
  have size : Int32.size = 2 ^ 32 := rfl
  omega

/-- The next number is not in use. -/
theorem next_notMem (h : Numbered number keys last) (inj : ∀ a b, number a = number b → a = b) :
    number (last + 1) ∉ keys := by
  have few := h.few
  have size : Int32.size = 2 ^ 32 := rfl
  rw [h.succ_last, h.keys_eq, List.mem_map]
  rintro ⟨n, below, same⟩
  rw [List.mem_range] at below
  simp only [List.length_map, List.length_range] at same
  exact ofNat_ne (by omega) (by omega) (inj _ _ same)

section
variable {α : Type} [DecidableEq κ] {t : Table κ α} (h : Numbered number t.keys last)
  (inj : ∀ a b, number a = number b → a = b)
include h inj

theorem unused : t.get? (number (last + 1)) = none :=
  (Table.lookup_eq_none_iff _ _).2 (h.next_notMem inj)

theorem insert (more : last ≠ Int32.maxValue) (a : α) :
    Numbered number (t.insert (number (last + 1)) a).keys (last + 1) := by
  rw [Table.keys_insert_of_new (h.unused inj)]
  exact h.concat more

end

end Numbered

/-- Every row stands under its own key. -/
def Keyed {κ α : Type} [DecidableEq κ] (key : α → κ) (t : Table κ α) : Prop :=
  ∀ k row, t.get? k = some row → key row = k

namespace Keyed
variable {κ α : Type} [DecidableEq κ] {key : α → κ} {t : Table κ α}

theorem insert (h : Keyed key t) {k : κ} {a : α} (same : key a = k) : Keyed key (t.insert k a) := by
  intro l row there
  rw [Table.get?_insert] at there
  split at there
  · next is =>
    cases there
    exact same.trans is.symm
  · exact h l row there

theorem get?_of_mem (h : Keyed key t) {a : α} (mem : a ∈ t.values) : t.get? (key a) = some a := by
  obtain ⟨k, there⟩ := (Table.mem_values_iff t a).1 mem
  rw [h k a there]
  exact there

theorem map_values (h : Keyed key t) : t.values.map key = t.keys := by
  rw [Table.values, Table.keys, List.map_map]
  refine List.map_congr_left ?_
  rintro ⟨k, row⟩ mem
  exact h k row ((Table.mem_rows_iff t k row).1 mem)

theorem nodup_map_filter (h : Keyed key t) (p : α → Bool) : ((t.values.filter p).map key).Nodup := by
  refine List.Nodup.sublist (List.filter_sublist.map key) ?_
  rw [h.map_values]
  exact t.nodup

end Keyed

/-- What the catalog of every store is like. -/
structure Catalogued (s : Store) : Prop where
  types : Numbered MessageTypeId.mk s.messageTypes.keys s.lastMessageType
  jobs : Numbered JobId.mk s.jobs.keys s.lastJob
  publisherKeys : Keyed Publisher.id s.publishers
  subscriberKeys : Keyed Subscriber.id s.subscribers
  jobKeys : Keyed Job.id s.jobs

/-- A job found by its name. -/
theorem jobNamed?_eq_some {s : Store} (keys : Keyed Job.id s.jobs) {scenario : ScenarioId}
    {name : String} {job : Job} (found : s.jobNamed? scenario name = some job) :
    s.jobs.get? job.id = some job ∧ job.scenario = scenario ∧ job.name = name := by
  have is := List.find?_some found
  simp only [Bool.and_eq_true, beq_iff_eq] at is
  exact ⟨keys.get?_of_mem (List.mem_of_find?_eq_some found), is⟩

namespace Catalogued
variable {s t : Store}

theorem of_same (h : Catalogued s) (same : SameCatalog s t) : Catalogued t where
  types := by
    rw [same.messageTypes, same.lastMessageType]
    exact h.types
  jobs := by
    rw [same.jobs, same.lastJob]
    exact h.jobs
  publisherKeys := by
    rw [same.publishers]
    exact h.publisherKeys
  subscriberKeys := by
    rw [same.subscribers]
    exact h.subscriberKeys
  jobKeys := by
    rw [same.jobs]
    exact h.jobKeys

theorem typeUnused (h : Catalogued s) : s.messageTypes.get? ⟨s.lastMessageType + 1⟩ = none :=
  h.types.unused fun _ _ => MessageTypeId.mk.inj

theorem jobUnused (h : Catalogued s) : s.jobs.get? ⟨s.lastJob + 1⟩ = none :=
  h.jobs.unused fun _ _ => JobId.mk.inj

theorem host {host row : Host} (h : Catalogued s) (done : s.registerHost host = (.ok row, t)) :
    Catalogued t := by
  cases registerHost_eq_ok_iff.1 done with
  | stored => exact h
  | new => exact ⟨h.types, h.jobs, h.publisherKeys, h.subscriberKeys, h.jobKeys⟩

theorem scenario {scenario row : Scenario} (h : Catalogued s)
    (done : s.registerScenario scenario = (.ok row, t)) : Catalogued t := by
  cases (registerScenario_eq_ok_iff.1 done).2 with
  | stored => exact h
  | new => exact ⟨h.types, h.jobs, h.publisherKeys, h.subscriberKeys, h.jobKeys⟩

theorem messageType {spec : MessageTypeSpec} {row : MessageType} (h : Catalogued s)
    (done : s.registerMessageType spec = (.ok row, t)) : Catalogued t := by
  obtain ⟨more, how⟩ := registerMessageType_eq_ok_iff.1 done
  cases how with
  | stored => exact h
  | new unknown =>
    have types := h.types.insert (fun _ _ same => MessageTypeId.mk.inj same) (more unknown)
    exact ⟨types _, h.jobs, h.publisherKeys, h.subscriberKeys, h.jobKeys⟩

theorem publisher {row answer : Publisher} (h : Catalogued s)
    (done : s.putPublisher row = (.ok answer, t)) : Catalogued t := by
  cases (putPublisher_eq_ok_iff.1 done).2 with
  | stored => exact h
  | new => exact ⟨h.types, h.jobs, h.publisherKeys.insert rfl, h.subscriberKeys, h.jobKeys⟩

theorem subscriber {row answer : Subscriber} (h : Catalogued s)
    (done : s.putSubscriber row = (.ok answer, t)) : Catalogued t := by
  obtain ⟨-, -, -, rfl⟩ := putSubscriber_eq_ok_iff.1 done
  exact ⟨h.types, h.jobs, h.publisherKeys, h.subscriberKeys.insert rfl, h.jobKeys⟩

theorem job {row answer : Job} (h : Catalogued s) (done : s.putJob row = (.ok answer, t)) :
    Catalogued t := by
  cases (putJob_eq_ok_iff.1 done).2 with
  | stored found =>
    obtain ⟨there, -, -⟩ := jobNamed?_eq_some h.jobKeys found
    refine ⟨h.types, ?_, h.publisherKeys, h.subscriberKeys, h.jobKeys.insert rfl⟩
    rw [Table.keys_insert_of_stored there]
    exact h.jobs
  | new _ more =>
    have jobs := h.jobs.insert (fun _ _ same => JobId.mk.inj same) more
    exact ⟨h.types, jobs _, h.publisherKeys, h.subscriberKeys, h.jobKeys.insert rfl⟩

theorem registrar : WritesLead (fun s t => Catalogued s → Catalogued t) registrar :=
  writesLead_of_same (fun same h => h.of_same same) (fun first next h => next (first h))
    (fun _ _ _ _ done h => h.host done) (fun _ _ _ _ done h => h.scenario done)
    (fun _ _ _ _ done h => h.messageType done) (fun _ _ _ _ done h => h.publisher done)
    (fun _ _ _ _ done h => h.subscriber done) (fun _ _ _ _ done h => h.job done)

theorem after (h : Catalogued s) (step : Step) : Catalogued (s.after step) :=
  perform_leads registrar (fun same h => h.of_same same) s step.fresh step.call h

end Catalogued

theorem catalogued_run (steps : List Step) : Catalogued (run .empty steps) :=
  run_keeps (fun _ step h => h.after step)
    ⟨⟨by decide, rfl, rfl⟩, ⟨by decide, rfl, rfl⟩, nofun, nofun, nofun⟩ steps

/-! Message types stay. -/

/-- A number that has a message type keeps one. -/
def KeepsTypes (s t : Store) : Prop :=
  ∀ id, (∃ row, s.messageTypes.get? id = some row) → ∃ row, t.messageTypes.get? id = some row

namespace KeepsTypes
variable {s t : Store}

theorem of_same (same : t.messageTypes = s.messageTypes) : KeepsTypes s t := by
  intro id there
  rwa [same]

theorem of_frame {u : Store} (frame : t = u) (same : u.messageTypes = s.messageTypes) :
    KeepsTypes s t := frame ▸ of_same same

theorem messageType {spec : MessageTypeSpec} {row : MessageType}
    (done : s.registerMessageType spec = (.ok row, t)) : KeepsTypes s t := by
  cases (registerMessageType_eq_ok_iff.1 done).2 with
  | stored => exact of_same rfl
  | new =>
    rintro id ⟨other, there⟩
    rw [Table.get?_insert]
    split
    · exact ⟨_, rfl⟩
    · exact ⟨other, there⟩

theorem registrar : WritesLead KeepsTypes registrar :=
  writesLead_of_same (fun same => of_same same.messageTypes)
    (fun first next id there => next id (first id there))
    (fun host => .always fun s => of_frame (registerHost_frame s host) rfl)
    (fun scenario => .always fun s => of_frame (registerScenario_frame s scenario) rfl)
    (fun _ _ _ _ done => messageType done)
    (fun row => .always fun s => of_frame (putPublisher_frame s row) rfl)
    (fun row => .always fun s => of_frame (putSubscriber_frame s row) rfl)
    (fun row => .always fun s => of_frame (putJob_frame s row) rfl)

theorem after (s : Store) (step : Step) : KeepsTypes s (s.after step) :=
  perform_leads registrar (fun same => of_same same.messageTypes) s step.fresh step.call

end KeepsTypes

end MessageBus.Store
