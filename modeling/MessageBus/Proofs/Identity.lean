import MessageBus.Proofs.Restart

/-! Identities in a catalog. Rows stand under their own keys, and scenarios, message types and jobs
have names of their own, so that a look-up by name has one answer. No row is lost, and of a row
nothing but a policy changes. -/
namespace MessageBus

section
variable {κ α β : Type} [DecidableEq κ]

/-- No two rows of the table have the same name. -/
def Distinct (name : α → β) (t : Table κ α) : Prop :=
  ∀ k a l b, t.get? k = some a → t.get? l = some b → name a = name b → k = l

theorem Distinct.insert {name : α → β} {t : Table κ α} (h : Distinct name t) {key : κ} {row : α}
    (free : ∀ k a, t.get? k = some a → name a = name row → k = key) :
    Distinct name (t.insert key row) := by
  intro k a l b first second same
  rw [Table.get?_insert] at first second
  split at first
  · next here =>
    cases first
    split at second
    · next there => exact here.trans there.symm
    · exact here.trans (free l b second same.symm).symm
  · split at second
    · next there =>
      cases second
      exact (free k a first same).trans there.symm
    · exact h k a l b first second same

/-- Every row stays, and so does what is seen of it. -/
def Keeps (seen : α → β) (t u : Table κ α) : Prop :=
  ∀ k a, t.get? k = some a → ∃ b, u.get? k = some b ∧ seen b = seen a

namespace Keeps
variable {seen : α → β} {t u v : Table κ α}

theorem refl (seen : α → β) (t : Table κ α) : Keeps seen t t := fun _ a there => ⟨a, there, rfl⟩

theorem of_eq (same : u = t) : Keeps seen t u := same ▸ refl seen t

theorem trans (h : Keeps seen t u) (k : Keeps seen u v) : Keeps seen t v := by
  intro key a there
  obtain ⟨b, next, same⟩ := h key a there
  obtain ⟨c, last, same'⟩ := k key b next
  exact ⟨c, last, same'.trans same⟩

theorem insert {key : κ} {row : α} (same : ∀ a, t.get? key = some a → seen row = seen a) :
    Keeps seen t (t.insert key row) := by
  intro k a there
  rw [Table.get?_insert]
  split
  · next here => exact ⟨row, rfl, same a (here ▸ there)⟩
  · exact ⟨a, there, rfl⟩

theorem insert_new {key : κ} (unused : t.get? key = none) (row : α) :
    Keeps seen t (t.insert key row) :=
  insert fun _ there => nomatch unused.symm.trans there

end Keeps

/-- A table of which everything is seen keeps its rows as they are. -/
theorem Keeps.stays {t u : Table κ α} (h : Keeps id t u) {k : κ} {a : α}
    (there : t.get? k = some a) : u.get? k = some a := by
  obtain ⟨_, next, rfl⟩ := h k a there
  exact next

end

namespace Store

/-! What every catalog is like. -/

/-- Every component has its scenario and its message type. -/
structure Rooted (s : Store) : Prop where
  publishers : ∀ id row, s.publishers.get? id = some row →
    s.HasParts row.scenario (some row.messageType)
  subscribers : ∀ id row, s.subscribers.get? id = some row →
    s.HasParts row.scenario (some row.messageType)
  jobs : ∀ id row, s.jobs.get? id = some row → s.HasParts row.scenario row.messageType

/-- Rows are known by their keys and by their names. Message types and jobs have the numbers from one
on, so that no number is given out twice. -/
structure Identified (s : Store) : Prop extends Catalogued s where
  hostKeys : Keyed Host.id s.hosts
  scenarioKeys : Keyed Scenario.id s.scenarios
  typeKeys : Keyed MessageType.id s.messageTypes
  scenarioNames : Distinct Scenario.name s.scenarios
  typeNames : Distinct MessageType.name s.messageTypes
  jobNames : Distinct (fun job => (job.scenario, job.name)) s.jobs
  rooted : Rooted s

/-- Every row of the catalog stays. Of subscribers and jobs the policy is left open. -/
structure KeepsRows (s t : Store) : Prop where
  hosts : Keeps id s.hosts t.hosts
  scenarios : Keeps id s.scenarios t.scenarios
  messageTypes : Keeps id s.messageTypes t.messageTypes
  publishers : Keeps id s.publishers t.publishers
  subscribers : Keeps Subscriber.withoutPolicy s.subscribers t.subscribers
  jobs : Keeps Job.withoutPolicy s.jobs t.jobs

namespace KeepsRows
variable {s t u : Store}

theorem of_same (same : SameCatalog s t) : KeepsRows s t where
  hosts := .of_eq same.hosts
  scenarios := .of_eq same.scenarios
  messageTypes := .of_eq same.messageTypes
  publishers := .of_eq same.publishers
  subscribers := .of_eq same.subscribers
  jobs := .of_eq same.jobs

theorem refl (s : Store) : KeepsRows s s := of_same (.refl s)

theorem trans (h : KeepsRows s t) (k : KeepsRows t u) : KeepsRows s u where
  hosts := h.hosts.trans k.hosts
  scenarios := h.scenarios.trans k.scenarios
  messageTypes := h.messageTypes.trans k.messageTypes
  publishers := h.publishers.trans k.publishers
  subscribers := h.subscribers.trans k.subscribers
  jobs := h.jobs.trans k.jobs

end KeepsRows

/-- Scenarios and message types that are there stay there. -/
theorem HasParts.stays {s t : Store} {scenario : ScenarioId} {messageType : Option MessageTypeId}
    (h : s.HasParts scenario messageType) (scenarios : Keeps id s.scenarios t.scenarios)
    (types : KeepsTypes s t) : t.HasParts scenario messageType where
  scenario := by
    obtain ⟨row, there⟩ := h.scenario
    exact ⟨row, scenarios.stays there⟩
  messageType id wanted := types id (h.messageType id wanted)

theorem Rooted.stays {s t : Store} (h : Rooted s) (scenarios : Keeps id s.scenarios t.scenarios)
    (types : KeepsTypes s t)
    (publishers : ∀ id row, t.publishers.get? id = some row →
      s.publishers.get? id = some row ∨ s.HasParts row.scenario (some row.messageType))
    (subscribers : ∀ id row, t.subscribers.get? id = some row →
      s.subscribers.get? id = some row ∨ s.HasParts row.scenario (some row.messageType))
    (jobs : ∀ id row, t.jobs.get? id = some row →
      s.jobs.get? id = some row ∨ s.HasParts row.scenario row.messageType) : Rooted t where
  publishers id row there :=
    ((publishers id row there).elim (h.publishers id row) fun parts => parts).stays scenarios types
  subscribers id row there :=
    ((subscribers id row there).elim (h.subscribers id row) fun parts => parts).stays scenarios types
  jobs id row there :=
    ((jobs id row there).elim (h.jobs id row) fun parts => parts).stays scenarios types

/-! What a registration makes of a catalog. -/

/-- The catalog is sound again, and nothing of it is lost. -/
structure Continues (s t : Store) : Prop where
  identified : Identified t
  keeps : KeepsRows s t

namespace Continues
variable {s t u : Store}

theorem trans (h : Continues s t) (k : Continues t u) : Continues s u where
  identified := k.identified
  keeps := h.keeps.trans k.keeps

theorem of_same (h : Identified s) (same : SameCatalog s t) : Continues s t where
  identified := {
    toCatalogued := h.of_same same
    hostKeys := by rw [same.hosts]; exact h.hostKeys
    scenarioKeys := by rw [same.scenarios]; exact h.scenarioKeys
    typeKeys := by rw [same.messageTypes]; exact h.typeKeys
    scenarioNames := by rw [same.scenarios]; exact h.scenarioNames
    typeNames := by rw [same.messageTypes]; exact h.typeNames
    jobNames := by rw [same.jobs]; exact h.jobNames
    rooted := h.rooted.stays (.of_eq same.scenarios) (.of_same same.messageTypes)
      (fun _ _ there => .inl (same.publishers ▸ there))
      (fun _ _ there => .inl (same.subscribers ▸ there))
      (fun _ _ there => .inl (same.jobs ▸ there)) }
  keeps := .of_same same

theorem refl (h : Identified s) : Continues s s := of_same h (.refl s)

section
variable (h : Identified s)
include h

theorem host {host row : Host} (done : s.registerHost host = (.ok row, t)) : Continues s t := by
  have catalogued := h.toCatalogued.host done
  cases registerHost_eq_ok_iff.1 done with
  | stored => exact refl h
  | new unknown =>
    have stay : Keeps id s.hosts (s.hosts.insert host.id host) := .insert_new unknown host
    exact ⟨{ h with
        toCatalogued := catalogued
        hostKeys := h.hostKeys.insert rfl
        rooted := h.rooted.stays (.refl _ _) (.of_same rfl) (fun _ _ => .inl) (fun _ _ => .inl)
          fun _ _ => .inl },
      { KeepsRows.refl s with hosts := stay }⟩

theorem scenario {scenario row : Scenario} (done : s.registerScenario scenario = (.ok row, t)) :
    Continues s t := by
  have catalogued := h.toCatalogued.scenario done
  obtain ⟨free, how⟩ := registerScenario_eq_ok_iff.1 done
  cases how with
  | stored => exact refl h
  | new unknown =>
    have stay : Keeps id s.scenarios (s.scenarios.insert scenario.id scenario) :=
      .insert_new unknown scenario
    have names : ∀ k a, s.scenarios.get? k = some a → a.name = scenario.name → k = scenario.id := by
      intro k a there same
      by_contra other
      have taken : s.nameTaken scenario = true :=
        List.any_eq_true.2 ⟨a, (Table.mem_values_iff _ _).2 ⟨k, there⟩, by
          simp [same, h.scenarioKeys k a there, other]⟩
      cases free.symm.trans taken
    exact ⟨{ h with
        toCatalogued := catalogued
        scenarioKeys := h.scenarioKeys.insert rfl
        scenarioNames := h.scenarioNames.insert names
        rooted := h.rooted.stays stay (.of_same rfl) (fun _ _ => .inl) (fun _ _ => .inl)
          fun _ _ => .inl },
      { KeepsRows.refl s with scenarios := stay }⟩

theorem messageType {spec : MessageTypeSpec} {row : MessageType}
    (done : s.registerMessageType spec = (.ok row, t)) : Continues s t := by
  have catalogued := h.toCatalogued.messageType done
  have types := KeepsTypes.messageType done
  cases (registerMessageType_eq_ok_iff.1 done).2 with
  | stored => exact refl h
  | new unknown =>
    have names : ∀ k a, s.messageTypes.get? k = some a → a.name = spec.name →
        k = ⟨s.lastMessageType + 1⟩ := by
      intro k a there same
      have other := List.find?_eq_none.1 unknown a ((Table.mem_values_iff _ _).2 ⟨k, there⟩)
      simp [same] at other
    have stay : Keeps id s.messageTypes (s.messageTypes.insert ⟨s.lastMessageType + 1⟩
        ⟨⟨s.lastMessageType + 1⟩, spec.name, spec.typeName⟩) := .insert_new h.typeUnused _
    exact ⟨{ h with
        toCatalogued := catalogued
        typeKeys := h.typeKeys.insert rfl
        typeNames := h.typeNames.insert names
        rooted := h.rooted.stays (.refl _ _) types (fun _ _ => .inl) (fun _ _ => .inl)
          fun _ _ => .inl },
      { KeepsRows.refl s with messageTypes := stay }⟩

theorem publisher {row answer : Publisher} (done : s.putPublisher row = (.ok answer, t)) :
    Continues s t := by
  have catalogued := h.toCatalogued.publisher done
  obtain ⟨parts, how⟩ := putPublisher_eq_ok_iff.1 done
  cases how with
  | stored => exact refl h
  | new unknown =>
    have stay : Keeps id s.publishers (s.publishers.insert row.id row) := .insert_new unknown row
    exact ⟨{ h with
        toCatalogued := catalogued
        rooted := h.rooted.stays (.refl _ _) (.of_same rfl)
          (fun _ _ => Table.stored_or_set (P := fun row : Publisher => s.HasParts row.scenario
            (some row.messageType)) parts)
          (fun _ _ => .inl) fun _ _ => .inl },
      { KeepsRows.refl s with publishers := stay }⟩

theorem subscriber {row answer : Subscriber} (done : s.putSubscriber row = (.ok answer, t)) :
    Continues s t := by
  have catalogued := h.toCatalogued.subscriber done
  obtain ⟨parts, agrees, rfl, rfl⟩ := putSubscriber_eq_ok_iff.1 done
  have stay : Keeps Subscriber.withoutPolicy s.subscribers (s.subscribers.insert answer.id answer) :=
    .insert fun stored there => by
      obtain ⟨name, scenario, messageType⟩ := agrees stored there
      have key := h.subscriberKeys _ _ there
      simp [Subscriber.withoutPolicy, key, name, scenario, messageType]
  exact ⟨{ h with
      toCatalogued := catalogued
      rooted := h.rooted.stays (.refl _ _) (.of_same rfl) (fun _ _ => .inl)
        (fun _ _ => Table.stored_or_set (P := fun row : Subscriber => s.HasParts row.scenario
          (some row.messageType)) parts)
        fun _ _ => .inl },
    { KeepsRows.refl s with subscribers := stay }⟩

/-- A job may be put under a name that no other job has, once its scenario and its type are there. -/
theorem insertJob {key : JobId} {row : Job} {last : Int32}
    (catalogued : Catalogued { s with jobs := s.jobs.insert key row, lastJob := last })
    (names : ∀ k a, s.jobs.get? k = some a →
      (a.scenario, a.name) = (row.scenario, row.name) → k = key)
    (parts : s.HasParts row.scenario row.messageType) :
    Identified { s with jobs := s.jobs.insert key row, lastJob := last } :=
  { h with
    toCatalogued := catalogued
    jobNames := h.jobNames.insert names
    rooted := h.rooted.stays (.refl _ _) (.of_same rfl) (fun _ _ => .inl) (fun _ _ => .inl)
      fun _ _ => Table.stored_or_set (P := fun row : Job => s.HasParts row.scenario
        row.messageType) parts }

theorem job {row answer : Job} (done : s.putJob row = (.ok answer, t)) : Continues s t := by
  have catalogued := h.toCatalogued.job done
  obtain ⟨parts, how⟩ := putJob_eq_ok_iff.1 done
  cases how with
  | stored found messageType =>
    next stored =>
    obtain ⟨there, -, -⟩ := jobNamed?_eq_some h.jobKeys found
    have parts := h.rooted.jobs _ _ there
    have stay : Keeps Job.withoutPolicy s.jobs
        (s.jobs.insert stored.id { stored with policy := row.policy }) :=
      .insert fun other same => by
        cases there.symm.trans same
        rfl
    have names : ∀ k a, s.jobs.get? k = some a →
        (a.scenario, a.name) = (stored.scenario, stored.name) → k = stored.id :=
      fun k a here same => h.jobNames k a _ _ here there same
    exact ⟨insertJob h catalogued names parts, { KeepsRows.refl s with jobs := stay }⟩
  | new unknown =>
    have names : ∀ k a, s.jobs.get? k = some a →
        (a.scenario, a.name) = (row.scenario, row.name) → k = ⟨s.lastJob + 1⟩ := by
      intro k a there same
      have other := List.find?_eq_none.1 unknown a ((Table.mem_values_iff _ _).2 ⟨k, there⟩)
      obtain ⟨scenario, name⟩ := Prod.mk.inj same
      simp [scenario, name] at other
    have stay : Keeps Job.withoutPolicy s.jobs
        (s.jobs.insert ⟨s.lastJob + 1⟩ { row with id := ⟨s.lastJob + 1⟩ }) :=
      .insert_new h.jobUnused _
    exact ⟨insertJob h catalogued names parts, { KeepsRows.refl s with jobs := stay }⟩

end

theorem registrar : WritesLead (fun s t => Identified s → Continues s t) registrar :=
  writesLead_of_same (fun same h => of_same h same)
    (fun first next h => (first h).trans (next (first h).identified))
    (fun _ _ _ _ done h => host h done) (fun _ _ _ _ done h => scenario h done)
    (fun _ _ _ _ done h => messageType h done) (fun _ _ _ _ done h => publisher h done)
    (fun _ _ _ _ done h => subscriber h done) (fun _ _ _ _ done h => job h done)

theorem after (h : Identified s) (step : Step) : Continues s (s.after step) :=
  perform_leads registrar (fun same h => of_same h same) s step.fresh step.call h

theorem run (h : Identified s) (steps : List Step) : Continues s (s.run steps) := by
  induction steps generalizing s with
  | nil => exact refl h
  | cons step steps ih =>
    have first := after h step
    exact first.trans (ih first.identified)

end Continues

theorem identified_run (steps : List Step) : Identified (run .empty steps) := by
  refine run_keeps (P := Identified) (fun _ step h => (Continues.after h step).identified) ?_ steps
  exact { catalogued_run [] with
    hostKeys := nofun
    scenarioKeys := nofun
    typeKeys := nofun
    scenarioNames := nofun
    typeNames := nofun
    jobNames := nofun
    rooted := ⟨nofun, nofun, nofun⟩ }

end Store
end MessageBus
