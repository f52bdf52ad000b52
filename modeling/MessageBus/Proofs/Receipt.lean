import MessageBus.Proofs.Reregistration

/-! The receipt of a startup beside the store that the startup leaves. The rows of a receipt are
collected while the plan is being carried out, so that a later entry of the plan may renew the policy
of a subscriber or a job that has been reported already; everything else in a receipt is so. -/
namespace MessageBus

/-- The instance takes tickets. -/
def PlannedInstance.consumes : PlannedInstance → Bool
  | publisher .. => false
  | subscriber .. => true
  | job .. => true

namespace Store
open StartupPlan

/-- The identity under which a planned instance takes tickets. That of a job has the number of the
job with this name in the store. -/
inductive ClaimsAs (s : Store) (scenario : ScenarioId) : PlannedInstance → Consumer → Prop
  | subscriber {id runner} : ClaimsAs s scenario (.subscriber id runner) (.subscriber id runner)
  | job {name runner row} (stored : s.jobs.get? row.id = some row) (home : row.scenario = scenario)
      (named : row.name = name) : ClaimsAs s scenario (.job name runner) (.job row.id runner)

/-- What a receipt says about a plan that was carried out. It has a row for each entry, in the order
of the plan, and its rows are those of the store. The rows of a subscriber or a job are so but for the
policy; they are so altogether exactly when the plan gives each subscriber and each job one policy. -/
structure Reports (s : Store) (plan : StartupPlan) (now : Instant) (receipt : StartupReceipt) :
    Prop where
  host : receipt.host = plan.host ∧ s.hosts.get? plan.host.id = some receipt.host
  scenario : receipt.scenario = plan.scenario ∧
    s.scenarios.get? plan.scenario.id = some receipt.scenario
  messageTypes : List.Forall₂
    (fun spec row => row.name = spec.name ∧ s.messageTypes.get? row.id = some row)
    plan.messageTypes receipt.messageTypes
  publishers : List.Forall₂
    (fun spec row => row.id = spec.id ∧ s.publishers.get? row.id = some row)
    plan.publishers receipt.publishers
  subscribers : List.Forall₂
    (fun spec row => row.id = spec.id ∧ row.policy = spec.policy ∧
      (s.subscribers.get? row.id).map Subscriber.withoutPolicy = some row.withoutPolicy)
    plan.subscribers receipt.subscribers
  jobs : List.Forall₂
    (fun spec row => row.name = spec.name ∧ row.policy = spec.policy ∧
      (s.jobs.get? row.id).map Job.withoutPolicy = some row.withoutPolicy)
    plan.jobs receipt.jobs
  subscriberPolicies : (∀ row ∈ receipt.subscribers, s.subscribers.get? row.id = some row) ↔
    ∀ a ∈ plan.subscribers, ∀ b ∈ plan.subscribers, a.id = b.id → a.policy = b.policy
  jobPolicies : (∀ row ∈ receipt.jobs, s.jobs.get? row.id = some row) ↔
    ∀ a ∈ plan.jobs, ∀ b ∈ plan.jobs, a.name = b.name → a.policy = b.policy
  instances : List.Forall₂
    (fun planned row => planned.record? receipt.jobs receipt.runtime.id now = some row ∧
      s.instance? row.ref = some row)
    plan.instances receipt.instances
  consumers : List.Forall₂ (ClaimsAs s plan.scenario.id)
    (plan.instances.filter PlannedInstance.consumes) receipt.consumers

/-! Rows that are set one after another. -/

section
variable {σ κ α β γ ν : Type} [DecidableEq κ] {key : α → κ} {t u : Table κ α} {rows : List α}

/-- One of the rows that were set under a key is there. -/
theorem set_row_there (set : u = t.insertAll key rows) {row : α} (mem : row ∈ rows) :
    ∃ last ∈ rows, key last = key row ∧ u.get? (key row) = some last := by
  rw [set, Table.get?_insertAll]
  cases found : rows.reverse.find? fun other => key other == key row with
  | none =>
    have other := List.find?_eq_none.1 found row (List.mem_reverse.2 mem)
    simp at other
  | some last =>
    exact ⟨last, List.mem_reverse.1 (List.mem_of_find?_eq_some found),
      by simpa using List.find?_some found, rfl⟩

/-- Rows that agree but for one property were all set to last exactly when entries with one name ask
for one value of it. -/
theorem all_there_iff {P : σ → α → Prop} {specs : List σ} (settled : List.Forall₂ P specs rows)
    (set : u = t.insertAll key rows) {bare : α → β} {value : α → γ} {name : σ → ν} {asked : σ → γ}
    (whole : ∀ {a b}, bare a = bare b → value a = value b → a = b)
    (stored : ∀ {spec row}, P spec row → (u.get? (key row)).map bare = some (bare row))
    (given : ∀ {spec row}, P spec row → value row = asked spec)
    (named : ∀ {a b row other}, P a row → P b other → (key row = key other ↔ name a = name b)) :
    (∀ row ∈ rows, u.get? (key row) = some row) ↔
      ∀ a ∈ specs, ∀ b ∈ specs, name a = name b → asked a = asked b := by
  constructor
  · intro there a memA b memB same
    obtain ⟨row, mem, settledA⟩ := row_of_entry settled memA
    obtain ⟨other, mem', settledB⟩ := row_of_entry settled memB
    have one := there other mem'
    rw [← (named settledA settledB).2 same, there row mem] at one
    cases one
    rw [← given settledA, given settledB]
  · intro agree row mem
    obtain ⟨last, mem', sameKey, there⟩ := set_row_there set mem
    obtain ⟨a, memA, settledA⟩ := entry_of_row settled mem
    obtain ⟨b, memB, settledB⟩ := entry_of_row settled mem'
    have bares := stored settledA
    rw [there] at bares
    have values : value last = value row := by
      rw [given settledB, given settledA]
      exact agree b memB a memA ((named settledB settledA).1 sameKey)
    rw [there, whole (Option.some.inj bares) values]

end

/-! The instances that are started. -/

theorem instance?_putInstance (s : Store) (record : InstanceRecord) (ref : InstanceRef) :
    (s.putInstance record).instance? ref =
      if ref = record.ref then some record else s.instance? ref := by
  cases record <;> cases ref <;>
    simp [putInstance, instance?, InstanceRecord.ref, apply_ite (Option.map _)]

/-- Instances are started under references that are not in use, so that none takes the place of
another one. -/
theorem instances_of_started {record : PlannedInstance → Except StoreError InstanceRecord}
    {instances : List PlannedInstance} {rows : List InstanceRecord} {s t : Store}
    (done : (startInstances registrar record instances).run s = (.ok rows, t)) :
    (∀ ref row, s.instance? ref = some row → t.instance? ref = some row) ∧
      List.Forall₂ (fun planned row => record planned = .ok row ∧ t.instance? row.ref = some row)
        instances rows := by
  induction instances generalizing s rows with
  | nil =>
    cases done
    exact ⟨fun _ _ there => there, .nil⟩
  | cons planned instances ih =>
    obtain ⟨row, s₁, is, done⟩ := run_bind_eq_ok done
    obtain ⟨_, s₂, started, done⟩ := run_bind_eq_ok done
    obtain ⟨rest, s₃, later, done⟩ := run_bind_eq_ok done
    cases done
    obtain ⟨stay, others⟩ := ih later
    cases found : record planned with
    | error e =>
      rw [found] at is
      cases is
    | ok own =>
      rw [found] at is
      cases is
      obtain ⟨-, unused, rfl⟩ := startInstance_eq_ok_iff.1 started
      refine ⟨fun ref other there => stay ref other ?_, .cons ⟨found, stay _ _ ?_⟩ others⟩
      · rw [instance?_putInstance, if_neg, there]
        rintro rfl
        rw [hasInstance_eq, there] at unused
        cases unused
      · rw [instance?_putInstance, if_pos rfl]

section
variable {s : Store} {plan : StartupPlan} {base : StartupReceipt} {now : Instant}

/-- The row of a planned instance is the one that a plan gives it. -/
theorem record?_of_recordFor {planned : PlannedInstance} {row : InstanceRecord}
    (is : recordFor base now planned = .ok row) :
    planned.record? base.jobs base.runtime.id now = some row := by
  cases planned with
  | publisher id runner =>
    simp only [recordFor, plannedRecord] at is
    split at is
    · cases is
      rfl
    · cases is
  | subscriber id runner =>
    simp only [recordFor, plannedRecord] at is
    split at is
    · cases is
      rfl
    · cases is
  | job name runner =>
    simp only [recordFor, plannedRecord] at is
    cases found : base.jobs.find? fun job => job.name == name with
    | none =>
      rw [found] at is
      cases is
    | some job =>
      rw [found] at is
      cases is
      rw [PlannedInstance.record?, found]
      rfl

/-- The consumers of a receipt are its instances that take tickets, each under its component. -/
theorem consumers_of_records {scenario : ScenarioId} {instances : List PlannedInstance}
    {rows : List InstanceRecord}
    (jobs : ∀ job ∈ base.jobs, ∃ stored, s.jobs.get? job.id = some stored ∧ stored.id = job.id ∧
      stored.scenario = scenario ∧ stored.name = job.name)
    (records : List.Forall₂
      (fun planned row => planned.record? base.jobs base.runtime.id now = some row) instances rows) :
    List.Forall₂ (ClaimsAs s scenario) (instances.filter PlannedInstance.consumes)
      { base with instances := rows }.consumers := by
  induction records with
  | nil => exact .nil
  | @cons planned row instances rows is _ ih =>
    cases planned with
    | publisher id runner =>
      cases is
      exact ih
    | subscriber id runner =>
      cases is
      exact .cons .subscriber ih
    | job name runner =>
      obtain ⟨job, found, rfl⟩ := Option.map_eq_some_iff.1 is
      obtain ⟨stored, there, sameId, home, named⟩ := jobs job (List.mem_of_find?_eq_some found)
      have asked : job.name = name := by simpa using List.find?_some found
      have claims : ClaimsAs s scenario (.job name runner) (.job stored.id runner) :=
        .job (sameId ▸ there) home (named.trans asked)
      rw [sameId] at claims
      exact .cons claims ih

end

/-! The whole receipt. -/

theorem Subscriber.whole {a b : Subscriber} (bare : a.withoutPolicy = b.withoutPolicy)
    (policy : a.policy = b.policy) : a = b := by
  cases a
  cases b
  cases bare
  cases policy
  rfl

theorem Job.whole {a b : Job} (bare : a.withoutPolicy = b.withoutPolicy)
    (policy : a.policy = b.policy) : a = b := by
  rw [Job.eq_of_withoutPolicy bare, policy]

section
variable {s t : Store} {plan : StartupPlan} {base : StartupReceipt} (settled : Settled t plan base)
include settled

theorem Settled.subscriberPolicies
    (set : t.subscribers = s.subscribers.insertAll Subscriber.id base.subscribers) :
    (∀ row ∈ base.subscribers, t.subscribers.get? row.id = some row) ↔
      ∀ a ∈ plan.subscribers, ∀ b ∈ plan.subscribers, a.id = b.id → a.policy = b.policy := by
  refine all_there_iff settled.subscribers set Subscriber.whole ?_ ?_ ?_
  · rintro spec row ⟨_, -, -, rfl, stored⟩
    exact stored
  · rintro spec row ⟨_, -, -, rfl, -⟩
    rfl
  · rintro a b row other ⟨_, -, -, rfl, -⟩ ⟨_, -, -, rfl, -⟩
    rfl

/-- Jobs of one scenario have one number exactly when they have one name. -/
theorem Settled.jobPolicies (h : Identified t)
    (set : t.jobs = s.jobs.insertAll Job.id base.jobs) :
    (∀ row ∈ base.jobs, t.jobs.get? row.id = some row) ↔
      ∀ a ∈ plan.jobs, ∀ b ∈ plan.jobs, a.name = b.name → a.policy = b.policy := by
  refine all_there_iff settled.jobs set Job.whole ?_ ?_ ?_
  · intro spec row settled
    obtain ⟨stored, there, same, -, -⟩ := settled.named h
    rw [there, Option.map_some, same]
  · rintro spec row ⟨_, -, -, -, policy, -⟩
    exact policy
  · intro a b row other settledA settledB
    obtain ⟨stored, there, same, played, name⟩ := settledA.named h
    obtain ⟨stored', there', same', played', name'⟩ := settledB.named h
    obtain ⟨-, sameName, samePlayed, -⟩ := Job.mk.inj same
    obtain ⟨-, sameName', samePlayed', -⟩ := Job.mk.inj same'
    constructor
    · intro number
      rw [number, there'] at there
      cases there
      rw [← name, ← name', ← sameName, ← sameName']
    · intro one
      refine h.jobNames _ _ _ _ there there' (Prod.ext ?_ ?_)
      · exact (samePlayed.trans played).trans (samePlayed'.trans played').symm
      · exact ((sameName.trans name).trans one).trans (sameName'.trans name').symm

end

/-- A receipt tells what the startup left in the store, but for a policy that a later entry of the
plan has renewed. -/
theorem receipt_reports (past : List Step) (plan : StartupPlan) (now : Instant)
    {receipt : StartupReceipt} {s : Store}
    (done : (run .empty past).startUp plan now = (.ok receipt, s)) :
    Reports s plan now receipt := by
  have before := identified_run past
  have h : Identified s := by
    have after := (Continues.after before ⟨freshFrom 0, .startUp plan now⟩).identified
    change Identified ((run .empty past).startUp plan now).2 at after
    rwa [done] at after
  obtain ⟨base, rows, u, rfl, started, same, settled, subscribers, jobs⟩ :=
    settled_of_startUp before.toCatalogued done
  obtain ⟨-, instances⟩ := instances_of_started started
  have records := instances.imp fun _ _ both =>
    And.intro (record?_of_recordFor both.1) both.2
  have home := settled.scenario_eq h
  have subscriberPolicies := settled.subscriberPolicies subscribers
  have jobPolicies := settled.jobPolicies h jobs
  refine ⟨⟨settled.host_eq h, settled.host.1⟩, ⟨home, settled.scenario.1⟩,
    settled.messageTypes.imp fun spec row settled => ?_,
    settled.publishers.imp fun spec row settled => ?_,
    settled.subscribers.imp fun spec row settled => ?_,
    settled.jobs.imp fun spec row settled => ?_, subscriberPolicies, jobPolicies, records, ?_⟩
  · exact ⟨name_of_messageTypeByName? settled.1,
      h.typeKeys.get?_of_mem (List.mem_of_find?_eq_some settled.1)⟩
  · obtain ⟨_, -, -, -, -, -, there⟩ := settled
    have key := h.publisherKeys _ _ there
    exact ⟨key, key ▸ there⟩
  · obtain ⟨_, -, -, rfl, there⟩ := settled
    exact ⟨rfl, rfl, there⟩
  · obtain ⟨stored, there, same, -, name⟩ := settled.named h
    obtain ⟨_, -, -, -, policy, -⟩ := settled
    exact ⟨name, policy, by rw [there, Option.map_some, same]⟩
  · refine consumers_of_records (fun job mem => ?_) (records.imp fun _ _ => And.left)
    obtain ⟨spec, -, settled⟩ := entry_of_row settled.jobs mem
    obtain ⟨stored, there, same, played, name⟩ := settled.named h
    obtain ⟨sameId, sameName, samePlayed, -⟩ := Job.mk.inj same
    exact ⟨stored, there, sameId, (samePlayed.trans played).trans (congrArg _ home), sameName⟩

/-- A plan that names its subscriber twice, each time with another time limit. -/
def repeatedSubscriber : StartupPlan :=
  { secondProcess with
    subscribers := [⟨⟨.ofNat 5⟩, "subscriber", "type", .inOrder (.ofSecs 1)⟩,
      ⟨⟨.ofNat 5⟩, "subscriber", "type", .inOrder (.ofSecs 2)⟩]
    instances := [.subscriber ⟨.ofNat 5⟩ ⟨.ofNat 8⟩, .job "job" ⟨.ofNat 23⟩] }

theorem receipt_reports_repeatedSubscriber :
    ∃ receipt s, (run .empty oneTicket).startUp repeatedSubscriber default = (.ok receipt, s) ∧
      Reports s repeatedSubscriber default receipt ∧
      receipt.consumers = [.subscriber ⟨.ofNat 5⟩ ⟨.ofNat 8⟩, .job ⟨1⟩ ⟨.ofNat 23⟩] := by
  have succeeds : ((run .empty oneTicket).startUp repeatedSubscriber default).1.toOption.map
      StartupReceipt.consumers = some [.subscriber ⟨.ofNat 5⟩ ⟨.ofNat 8⟩, .job ⟨1⟩ ⟨.ofNat 23⟩] := by
    decide +kernel
  match done : (run .empty oneTicket).startUp repeatedSubscriber default with
  | (.error e, s) =>
    rw [done] at succeeds
    cases succeeds
  | (.ok receipt, s) =>
    rw [done] at succeeds
    exact ⟨receipt, s, rfl, receipt_reports oneTicket repeatedSubscriber default done,
      Option.some.inj succeeds⟩

/-- The receipt of such a plan reports a policy that the subscriber does not have. -/
theorem receipt_reports_stale_policy :
    ((run .empty oneTicket).startUp repeatedSubscriber default).1.toOption.bind
        (fun receipt => (receipt.subscriber? ⟨.ofNat 5⟩).map Subscriber.policy) =
      some (.inOrder (.ofSecs 1)) ∧
    ((run .empty oneTicket).startUp repeatedSubscriber default).2.subscribers.get? ⟨.ofNat 5⟩ =
      some ⟨⟨.ofNat 5⟩, "subscriber", ⟨.ofNat 3⟩, ⟨1⟩, .inOrder (.ofSecs 2)⟩ ∧
    DeliveryPolicy.inOrder (.ofSecs 1) ≠ .inOrder (.ofSecs 2) := by
  refine ⟨?_, ?_, ?_⟩ <;> decide +kernel

end Store
end MessageBus
