import Mathlib.Data.List.Forall2
import MessageBus.Proofs.Startup

/-! The growth of a catalog. What is registered stays, but for the policies of subscribers and jobs,
and so does what a list of registrations has settled one after another. -/
namespace MessageBus

namespace Table
variable {κ α : Type} [DecidableEq κ] (key : α → κ)

/-- Sets rows under their keys, one after another. -/
def insertAll (t : Table κ α) (rows : List α) : Table κ α :=
  rows.foldl (fun t row => t.insert (key row) row) t

variable {key}

/-- The last of the rows with a key is under it. -/
theorem get?_insertAll (t : Table κ α) (rows : List α) (k : κ) :
    (t.insertAll key rows).get? k =
      (rows.reverse.find? fun row => key row == k).or (t.get? k) := by
  induction rows generalizing t with
  | nil => rfl
  | cons row rows ih =>
    rw [insertAll, List.foldl_cons, ← insertAll, ih, List.reverse_cons, List.find?_append,
      Option.or_assoc, get?_insert]
    congr 1
    by_cases same : key row = k
    · simp [same]
    · simp [same, Ne.symm same]

theorem keys_insertAll_of_stored {t : Table κ α} {rows : List α}
    (stored : ∀ row ∈ rows, key row ∈ t.keys) : (t.insertAll key rows).keys = t.keys := by
  induction rows generalizing t with
  | nil => rfl
  | cons row rows ih =>
    obtain ⟨a, there⟩ := (mem_keys_iff _ _).1 (stored row List.mem_cons_self)
    have same := keys_insert_of_stored there row
    rw [insertAll, List.foldl_cons, ← insertAll, ih, same]
    intro other mem
    rw [same]
    exact stored other (List.mem_cons_of_mem _ mem)

/-- Rows that were set are set again without effect. -/
theorem insertAll_insertAll (t : Table κ α) (rows : List α) :
    (t.insertAll key rows).insertAll key rows = t.insertAll key rows := by
  refine ext_get? (keys_insertAll_of_stored fun row mem => ?_) fun k => ?_
  · rw [mem_keys_iff, get?_insertAll]
    cases found : rows.reverse.find? fun other => key other == key row with
    | some other => exact ⟨other, rfl⟩
    | none =>
      have other := List.find?_eq_none.1 found row (List.mem_reverse.2 mem)
      simp at other
  · rw [get?_insertAll, get?_insertAll, ← Option.or_assoc, Option.or_self]

end Table

/-- What registration compares of a subscriber. -/
def Subscriber.withoutPolicy (row : Subscriber) : Subscriber := { row with policy := .default }

def Job.withoutPolicy (row : Job) : Job := { row with policy := .default }

theorem Job.eq_of_withoutPolicy {a b : Job} (same : a.withoutPolicy = b.withoutPolicy) :
    a = { b with policy := a.policy } := by
  cases a
  cases b
  cases same
  rfl

namespace Store
open StartupPlan

/-! The catalog only grows, but for policies. -/

/-- What is registered stays, with the policies of subscribers and jobs left open. -/
structure Grows (s t : Store) : Prop where
  hosts : t.hosts = s.hosts
  scenarios : t.scenarios = s.scenarios
  names : KeepsNames s t
  types : ∀ id row, s.messageTypes.get? id = some row → ∃ row', t.messageTypes.get? id = some row'
  publishers : ∀ id row, s.publishers.get? id = some row → t.publishers.get? id = some row
  subscribers : ∀ id row, (s.subscribers.get? id).map Subscriber.withoutPolicy = some row →
    (t.subscribers.get? id).map Subscriber.withoutPolicy = some row
  jobs : ∀ scenario name row, (s.jobNamed? scenario name).map Job.withoutPolicy = some row →
    (t.jobNamed? scenario name).map Job.withoutPolicy = some row

theorem map_jobNamed? (s : Store) (scenario : ScenarioId) (name : String) :
    (s.jobNamed? scenario name).map Job.withoutPolicy =
      (s.jobs.values.map Job.withoutPolicy).find? fun job =>
        job.scenario == scenario && job.name == name := by
  rw [List.find?_map]
  rfl

section
variable {s t : Store} {job : Job}

theorem map_jobNamed?_of_renewed {stored : Job} (made : t.jobs = s.jobs.insert stored.id job)
    (there : s.jobs.get? stored.id = some stored)
    (same : job.withoutPolicy = stored.withoutPolicy) (scenario : ScenarioId) (name : String) :
    (t.jobNamed? scenario name).map Job.withoutPolicy =
      (s.jobNamed? scenario name).map Job.withoutPolicy := by
  rw [map_jobNamed?, map_jobNamed?, made, Table.map_values_insert_of_same there same]

theorem map_jobNamed?_of_new {key : JobId} (made : t.jobs = s.jobs.insert key job)
    (unused : s.jobs.get? key = none) (scenario : ScenarioId) (name : String) :
    (t.jobNamed? scenario name).map Job.withoutPolicy =
      ((s.jobNamed? scenario name).map Job.withoutPolicy).or
        (if job.scenario = scenario ∧ job.name = name then some job.withoutPolicy else none) := by
  rw [map_jobNamed?, map_jobNamed?, made, Table.values_insert_of_new unused, List.map_append,
    List.find?_append]
  congr 1
  by_cases same : job.scenario = scenario ∧ job.name = name
  · simp [same, Job.withoutPolicy]
  · simp [same, Job.withoutPolicy]

end

namespace Grows
variable {s t u : Store}

theorem refl (s : Store) : Grows s s :=
  ⟨rfl, rfl, fun _ _ h => h, fun _ row h => ⟨row, h⟩, fun _ _ h => h, fun _ _ h => h,
    fun _ _ _ h => h⟩

theorem trans (h : Grows s t) (k : Grows t u) : Grows s u where
  hosts := k.hosts.trans h.hosts
  scenarios := k.scenarios.trans h.scenarios
  names name row found := k.names name row (h.names name row found)
  types id row found := by
    obtain ⟨row', there⟩ := h.types id row found
    exact k.types id row' there
  publishers id row found := k.publishers id row (h.publishers id row found)
  subscribers id row found := k.subscribers id row (h.subscribers id row found)
  jobs scenario name row found := k.jobs scenario name row (h.jobs scenario name row found)

theorem of_same (same : SameCatalog s t) : Grows s t where
  hosts := same.hosts
  scenarios := same.scenarios
  names := .of_same same.messageTypes
  types id row found := ⟨row, by rwa [same.messageTypes]⟩
  publishers id row found := by rwa [same.publishers]
  subscribers id row found := by rwa [same.subscribers]
  jobs scenario name row found := by
    unfold jobNamed? at found ⊢
    rwa [same.jobs]

theorem messageType {spec : MessageTypeSpec} {row : MessageType} (h : Catalogued s)
    (done : s.registerMessageType spec = (.ok row, t)) : Grows s t := by
  obtain ⟨-, names⟩ := found_of_registered h done
  have types := KeepsTypes.messageType done
  cases (registerMessageType_eq_ok_iff.1 done).2 with
  | stored => exact refl s
  | new =>
    exact ⟨rfl, rfl, names, fun id row there => types id ⟨row, there⟩, fun _ _ h => h,
      fun _ _ h => h, fun _ _ _ h => h⟩

theorem publisher {row answer : Publisher} (done : s.putPublisher row = (.ok answer, t)) :
    Grows s t := by
  cases (putPublisher_eq_ok_iff.1 done).2 with
  | stored => exact refl s
  | new unknown =>
    refine ⟨rfl, rfl, fun _ _ h => h, fun _ row h => ⟨row, h⟩, ?_, fun _ _ h => h,
      fun _ _ _ h => h⟩
    intro id other there
    rw [Table.get?_insert]
    split
    · next same =>
      rw [same] at there
      cases unknown.symm.trans there
    · exact there

theorem subscriber {row answer : Subscriber} (h : Catalogued s)
    (done : s.putSubscriber row = (.ok answer, t)) : Grows s t := by
  obtain ⟨-, agrees, rfl, rfl⟩ := putSubscriber_eq_ok_iff.1 done
  refine ⟨rfl, rfl, fun _ _ h => h, fun _ row h => ⟨row, h⟩, fun _ _ h => h, ?_,
    fun _ _ _ h => h⟩
  intro id other there
  rw [Table.get?_insert]
  split
  · next same =>
    subst same
    obtain ⟨stored, found, rfl⟩ := Option.map_eq_some_iff.1 there
    obtain ⟨name, scenario, messageType⟩ := agrees stored found
    have id := h.subscriberKeys _ _ found
    simp [Subscriber.withoutPolicy, id, name, scenario, messageType]
  · exact there

theorem job {row answer : Job} (h : Catalogued s) (done : s.putJob row = (.ok answer, t)) :
    Grows s t := by
  cases (putJob_eq_ok_iff.1 done).2 with
  | stored found =>
    obtain ⟨there, -, -⟩ := jobNamed?_eq_some h.jobKeys found
    refine ⟨rfl, rfl, fun _ _ h => h, fun _ row h => ⟨row, h⟩, fun _ _ h => h, fun _ _ h => h, ?_⟩
    intro scenario name other before
    refine (map_jobNamed?_of_renewed rfl there ?_ _ _).trans before
    rfl
  | new =>
    refine ⟨rfl, rfl, fun _ _ h => h, fun _ row h => ⟨row, h⟩, fun _ _ h => h, fun _ _ h => h, ?_⟩
    intro scenario name other before
    refine (map_jobNamed?_of_new rfl h.jobUnused _ _).trans ?_
    rw [before]
    rfl

end Grows

/-! Lists of registrations. -/

/-- Registrations that succeed one after another, with their answers. -/
inductive RegisterAll {σ α : Type} (f : σ → Registering α) : List σ → Store → List α → Store → Prop
  | nil {s} : RegisterAll f [] s [] s
  | cons {spec specs s row t rows u} (first : (f spec).run s = (.ok row, t))
      (rest : RegisterAll f specs t rows u) : RegisterAll f (spec :: specs) s (row :: rows) u

section
variable {σ α : Type} {f : σ → Registering α} {specs : List σ} {s t : Store} {rows : List α}

theorem mapM_eq_ok_iff : (specs.mapM f).run s = (.ok rows, t) ↔ RegisterAll f specs s rows t := by
  constructor
  · intro h
    induction specs generalizing s rows with
    | nil =>
      cases h
      exact .nil
    | cons spec specs ih =>
      rw [List.mapM_cons] at h
      obtain ⟨row, u, first, h⟩ := run_bind_eq_ok h
      obtain ⟨rest, v, later, h⟩ := run_bind_eq_ok h
      cases h
      exact .cons first (ih later)
  · intro h
    induction h with
    | nil => rfl
    | cons first rest ih =>
      rw [List.mapM_cons, run_bind_of_ok first, run_bind_of_ok ih]
      rfl

variable {settled : Store → σ → α → Prop}

/-- Where each registration settles what it registers, a list of them settles it all. -/
theorem RegisterAll.settles (h : RegisterAll f specs s rows t)
    (each : ∀ {spec s row u}, Catalogued s → (f spec).run s = (.ok row, u) →
      Catalogued u ∧ Grows s u ∧ settled u spec row)
    (stays : ∀ {s t}, Grows s t → ∀ {spec row}, settled s spec row → settled t spec row)
    (catalogued : Catalogued s) :
    Catalogued t ∧ Grows s t ∧ List.Forall₂ (settled t) specs rows := by
  induction h with
  | nil => exact ⟨catalogued, .refl _, .nil⟩
  | cons first _ ih =>
    obtain ⟨next, grows, here⟩ := each catalogued first
    obtain ⟨last, more, there⟩ := ih next
    exact ⟨last, grows.trans more, .cons (stays more here) there⟩

/-- What is settled stays settled while the catalog grows. -/
theorem settled_of_grows (grows : Grows s t)
    (stays : ∀ {s t}, Grows s t → ∀ {spec row}, settled s spec row → settled t spec row)
    (h : List.Forall₂ (settled s) specs rows) : List.Forall₂ (settled t) specs rows :=
  h.imp fun _ _ => stays grows

/-- A list of registrations that each set a row of a table sets them all. -/
theorem RegisterAll.inserts (h : RegisterAll f specs s rows t) {κ : Type} [DecidableEq κ]
    (table : Store → Table κ α) {key : α → κ}
    (each : ∀ {spec s row t}, (f spec).run s = (.ok row, t) →
      table t = (table s).insert (key row) row) : table t = (table s).insertAll key rows := by
  induction h with
  | nil => rfl
  | cons first rest ih =>
    rw [ih, each first]
    rfl

theorem RegisterAll.leads (h : RegisterAll f specs s rows t) {R : Store → Store → Prop}
    (refl : ∀ s, R s s) (trans : ∀ {s t u}, R s t → R t u → R s u)
    (each : ∀ spec, Leads R (f spec)) : R s t := by
  induction h with
  | nil => exact refl _
  | cons first rest ih => exact trans (each _ _ _ _ first) ih

end

end Store
end MessageBus
