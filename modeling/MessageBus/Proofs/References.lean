import MessageBus.Proofs.Answering
import MessageBus.Proofs.Identity

/-! References between the tables of a store. What is written refers to rows that were looked up
before the write, and no row that others refer to is ever taken away: of all the tables only snapshots
lose rows. So no claim fails for want of its message, and no poll for want of a message type. -/
namespace MessageBus

section
variable {κ α β : Type} [DecidableEq κ]

/-- What is said of a key and a row holds all over the table. -/
def Table.Holds (P : κ → α → Prop) (t : Table κ α) : Prop := ∀ k a, t.get? k = some a → P k a

namespace Table.Holds
variable {P Q : κ → α → Prop} {t : Table κ α}

theorem empty : Table.empty.Holds P := fun _ _ there => nomatch there

theorem mono (h : t.Holds P) (le : ∀ k a, P k a → Q k a) : t.Holds Q :=
  fun k a there => le k a (h k a there)

theorem insert (h : t.Holds P) {key : κ} {row : α} (set : P key row) :
    (t.insert key row).Holds P := by
  intro k a there
  rw [get?_insert] at there
  split at there
  · next here =>
    cases there
    rw [here]
    exact set
  · exact h k a there

theorem update (h : t.Holds P) (key : κ) {f : α → α} (keeps : ∀ k a, P k a → P k (f a)) :
    (t.update key f).Holds P := by
  intro k a there
  rw [get?_update] at there
  split at there
  · obtain ⟨b, stored, rfl⟩ := Option.map_eq_some_iff.1 there
    exact keeps k b (h k b stored)
  · exact h k a there

theorem erase (h : t.Holds P) (key : κ) : (t.erase key).Holds P := by
  intro k a there
  rw [get?_erase] at there
  split at there
  · cases there
  · exact h k a there

end Table.Holds

theorem Keeps.contains {seen : α → β} {t u : Table κ α} (h : Keeps seen t u) {k : κ}
    (there : t.contains k = true) : u.contains k = true := by
  obtain ⟨a, stored⟩ := (Table.contains_iff _ _).1 there
  obtain ⟨b, later, -⟩ := h k a stored
  exact (Table.contains_iff _ _).2 ⟨b, later⟩

theorem Keeps.update {seen : α → β} (t : Table κ α) (key : κ) {f : α → α}
    (same : ∀ a, seen (f a) = seen a) : Keeps seen t (t.update key f) := by
  intro k a stored
  rw [Table.get?_update, stored]
  split
  · exact ⟨f a, rfl, same a⟩
  · exact ⟨a, rfl, rfl⟩

/-- Every key that has a row keeps one. -/
abbrev KeepsKeys (t u : Table κ α) : Prop := Keeps (fun _ => ()) t u

end

namespace Store

def hasSubject (s : Store) : LogSubject → Bool
  | .hostRuntime id => s.runtimes.contains id
  | .component ref => s.hasInstance ref

theorem isSome_status? (s : Store) (subject : LogSubject) :
    (s.status? subject).isSome = s.hasSubject subject := by
  match subject with
  | .hostRuntime _ | .component (.publisher _) | .component (.subscriber _)
  | .component (.job _) => exact Option.isSome_map

/-- What rows of a store refer to stays there. -/
structure KeepsTargets (s t : Store) : Prop where
  hosts : KeepsKeys s.hosts t.hosts
  runtimes : KeepsKeys s.runtimes t.runtimes
  messageTypes : KeepsKeys s.messageTypes t.messageTypes
  publishers : KeepsKeys s.publishers t.publishers
  subscribers : KeepsKeys s.subscribers t.subscribers
  jobs : KeepsKeys s.jobs t.jobs
  publisherInstances : KeepsKeys s.publisherInstances t.publisherInstances
  subscriberInstances : KeepsKeys s.subscriberInstances t.subscriberInstances
  jobInstances : KeepsKeys s.jobInstances t.jobInstances
  messages : KeepsKeys s.messages t.messages

namespace KeepsTargets
variable {s t : Store}

theorem refl (s : Store) : KeepsTargets s s :=
  ⟨.refl _ _, .refl _ _, .refl _ _, .refl _ _, .refl _ _, .refl _ _, .refl _ _, .refl _ _,
    .refl _ _, .refl _ _⟩

theorem hasQueue (h : KeepsTargets s t) {queue : QueueRef} (there : s.hasQueue queue = true) :
    t.hasQueue queue = true := by
  cases queue with
  | subscriber id => exact h.subscribers.contains there
  | job id => exact h.jobs.contains there

theorem hasSubject (h : KeepsTargets s t) {subject : LogSubject}
    (there : s.hasSubject subject = true) : t.hasSubject subject = true := by
  match subject with
  | .hostRuntime id => exact h.runtimes.contains there
  | .component (.publisher id) => exact h.publisherInstances.contains there
  | .component (.subscriber id) => exact h.subscriberInstances.contains there
  | .component (.job id) => exact h.jobInstances.contains there

end KeepsTargets

/-- Processes, instances, messages, tickets and snapshots of a store stand under their own keys. With
the log records they refer to rows that are in another store. -/
structure RefersIn (s within : Store) : Prop where
  runtimes : s.runtimes.Holds fun id row => row.id = id ∧ within.hosts.contains row.host
  publisherInstances : s.publisherInstances.Holds fun id row => row.id = id ∧
    within.publishers.contains row.component ∧ within.runtimes.contains row.hostRuntime
  subscriberInstances : s.subscriberInstances.Holds fun id row => row.id = id ∧
    within.subscribers.contains row.component ∧ within.runtimes.contains row.hostRuntime
  jobInstances : s.jobInstances.Holds fun id row => row.id = id ∧
    within.jobs.contains row.component ∧ within.runtimes.contains row.hostRuntime
  messages : s.messages.Holds fun id row => row.id = id ∧
    within.messageTypes.contains row.messageType ∧
    within.publisherInstances.contains row.publisherInstance
  tickets : s.tickets.Holds fun id row => row.id = id ∧
    within.messages.contains row.message ∧ within.hasQueue row.queue
  snapshots : s.snapshots.Holds fun id row => row.identifier = id ∧
    within.jobInstances.contains row.owner
  logs : ∀ record ∈ s.logs, within.hasSubject record.subject ∧
    ∀ message, record.message = some message → within.messages.contains message

namespace RefersIn
variable {s t : Store}

/-- What is referred to may be looked up later as well. -/
theorem later (h : RefersIn s s) (keeps : KeepsTargets s t) : RefersIn s t where
  runtimes := h.runtimes.mono fun _ _ => And.imp_right keeps.hosts.contains
  publisherInstances := h.publisherInstances.mono fun _ _ => And.imp_right <|
    And.imp keeps.publishers.contains keeps.runtimes.contains
  subscriberInstances := h.subscriberInstances.mono fun _ _ => And.imp_right <|
    And.imp keeps.subscribers.contains keeps.runtimes.contains
  jobInstances := h.jobInstances.mono fun _ _ => And.imp_right <|
    And.imp keeps.jobs.contains keeps.runtimes.contains
  messages := h.messages.mono fun _ _ => And.imp_right <|
    And.imp keeps.messageTypes.contains keeps.publisherInstances.contains
  tickets := h.tickets.mono fun _ _ => And.imp_right <|
    And.imp keeps.messages.contains keeps.hasQueue
  snapshots := h.snapshots.mono fun _ _ => And.imp_right keeps.jobInstances.contains
  logs record mem := (h.logs record mem).imp keeps.hasSubject
    fun there message is => keeps.messages.contains (there message is)

variable (h : RefersIn s s)
include h

/-! Registrations. -/

theorem host {host row : Host} (done : s.registerHost host = (.ok row, t)) : RefersIn t t := by
  cases registerHost_eq_ok_iff.1 done with
  | stored => exact h
  | new =>
    exact { h.later (t := { s with hosts := s.hosts.insert host.id host })
      { KeepsTargets.refl s with hosts := .insert fun _ _ => rfl } with }

theorem hostRuntime {runtime : HostRuntime} (done : s.startHostRuntime runtime = (.ok (), t)) :
    RefersIn t t := by
  obtain ⟨there, -, rfl⟩ := startHostRuntime_eq_ok_iff.1 done
  have later := h.later (t := { s with runtimes := s.runtimes.insert runtime.id runtime })
    { KeepsTargets.refl s with runtimes := .insert fun _ _ => rfl }
  exact { later with
    runtimes := later.runtimes.insert ⟨rfl, (Table.contains_iff _ _).2 there⟩ }

theorem scenario {scenario row : Scenario} (done : s.registerScenario scenario = (.ok row, t)) :
    RefersIn t t := by
  cases (registerScenario_eq_ok_iff.1 done).2 with
  | stored => exact h
  | new => exact { h with }

theorem messageType {spec : MessageTypeSpec} {row : MessageType}
    (done : s.registerMessageType spec = (.ok row, t)) : RefersIn t t := by
  cases (registerMessageType_eq_ok_iff.1 done).2 with
  | stored => exact h
  | new =>
    exact { h.later (t := { s with
        messageTypes := s.messageTypes.insert ⟨s.lastMessageType + 1⟩
          ⟨⟨s.lastMessageType + 1⟩, spec.name, spec.typeName⟩ })
      { KeepsTargets.refl s with messageTypes := .insert fun _ _ => rfl } with }

theorem publisher {row answer : Publisher} (done : s.putPublisher row = (.ok answer, t)) :
    RefersIn t t := by
  cases (putPublisher_eq_ok_iff.1 done).2 with
  | stored => exact h
  | new =>
    exact { h.later (t := { s with publishers := s.publishers.insert row.id row })
      { KeepsTargets.refl s with publishers := .insert fun _ _ => rfl } with }

theorem subscriber {row answer : Subscriber} (done : s.putSubscriber row = (.ok answer, t)) :
    RefersIn t t := by
  obtain ⟨-, -, -, rfl⟩ := putSubscriber_eq_ok_iff.1 done
  exact { h.later (t := { s with subscribers := s.subscribers.insert row.id row })
    { KeepsTargets.refl s with subscribers := .insert fun _ _ => rfl } with }

theorem job {row answer : Job} (done : s.putJob row = (.ok answer, t)) : RefersIn t t := by
  have later (key : JobId) (put : Job) : RefersIn s { s with jobs := s.jobs.insert key put } :=
    h.later { KeepsTargets.refl s with jobs := .insert fun _ _ => rfl }
  cases (putJob_eq_ok_iff.1 done).2 with
  | stored => exact { later _ _ with }
  | new => exact { later _ _ with }

/-- A row of an instance is written whether or not one was there. -/
theorem startInstance (record : InstanceRecord) :
    RefersIn (s.startInstance record).2 (s.startInstance record).2 := by
  cases parts : s.requireParts record with
  | error e =>
    rw [startInstance_of_missing parts]
    exact h
  | ok =>
    rw [startInstance_of_parts parts]
    obtain ⟨runtime, component⟩ := requireParts_eq_ok_iff.1 parts
    have runtime := (Table.contains_iff _ _).2 runtime
    have component := component
    cases record with
    | publisher row =>
      have later := h.later (t := s.putInstance (.publisher row))
        { KeepsTargets.refl s with publisherInstances := .insert fun _ _ => rfl }
      exact { later with
        publisherInstances := later.publisherInstances.insert
          ⟨rfl, (Table.contains_iff _ _).2 component, runtime⟩ }
    | subscriber row =>
      have later := h.later (t := s.putInstance (.subscriber row))
        { KeepsTargets.refl s with subscriberInstances := .insert fun _ _ => rfl }
      exact { later with
        subscriberInstances := later.subscriberInstances.insert
          ⟨rfl, (Table.contains_iff _ _).2 component, runtime⟩ }
    | job row =>
      have later := h.later (t := s.putInstance (.job row))
        { KeepsTargets.refl s with jobInstances := .insert fun _ _ => rfl }
      exact { later with
        jobInstances := later.jobInstances.insert
          ⟨rfl, (Table.contains_iff _ _).2 component, runtime⟩ }

omit h in
theorem registrar : WritesLead (fun s t => RefersIn s s → RefersIn t t) registrar where
  refl _ := id
  trans first next h := next (first h)
  host _ _ _ _ done h := h.host done
  hostRuntime _ _ _ _ done h := h.hostRuntime done
  scenario _ _ _ _ done h := h.scenario done
  messageType _ _ _ _ done h := h.messageType done
  messageTypeByName _ := .always fun _ => id
  publisher _ _ _ _ done h := h.publisher done
  subscriber _ _ _ _ done h := h.subscriber done
  job _ _ _ _ done h := h.job done
  start record := .always fun _ h => h.startInstance record

/-! Rows that change. -/

theorem endHostRuntime (runtime : HostRuntimeId) (now : Instant) :
    RefersIn (s.endHostRuntime runtime now).2 (s.endHostRuntime runtime now).2 := by
  cases found : require s.runtimes "host runtime" runtime with
  | error e => simpa [Store.endHostRuntime, found, bind, Except.bind] using h
  | ok row =>
    have is := h.runtimes _ _ (require_eq_ok_iff.1 found)
    have later := h.later (t := { s with
        runtimes := s.runtimes.insert runtime { row with ended := some now, state := .stopped } })
      { KeepsTargets.refl s with runtimes := .insert fun _ _ => rfl }
    simp only [Store.endHostRuntime, found, bind, Except.bind, pure, Except.pure, attempt_ok]
    exact { later with runtimes := later.runtimes.insert is }

theorem touchInstance (ref : InstanceRef) (now : Instant) :
    RefersIn (s.touchInstance ref now).2 (s.touchInstance ref now).2 := by
  unfold Store.touchInstance
  split
  · cases ref with
    | publisher id =>
      have later := h.later (t := { s with
          publisherInstances := s.publisherInstances.update id ({ · with lastActivity := now }) })
        { KeepsTargets.refl s with publisherInstances := .update _ _ fun _ => rfl }
      exact { later with
        publisherInstances := later.publisherInstances.update id fun _ _ is => is }
    | subscriber id =>
      have later := h.later (t := { s with
          subscriberInstances := s.subscriberInstances.update id ({ · with lastActivity := now }) })
        { KeepsTargets.refl s with subscriberInstances := .update _ _ fun _ => rfl }
      exact { later with
        subscriberInstances := later.subscriberInstances.update id fun _ _ is => is }
    | job id =>
      have later := h.later (t := { s with
          jobInstances := s.jobInstances.update id ({ · with lastActivity := now }) })
        { KeepsTargets.refl s with jobInstances := .update _ _ fun _ => rfl }
      exact { later with jobInstances := later.jobInstances.update id fun _ _ is => is }
  · exact h

theorem setStatus (state : ComponentState) (subject : LogSubject) :
    KeepsTargets s (s.setStatus state subject) ∧
      RefersIn (s.setStatus state subject) (s.setStatus state subject) := by
  match subject with
  | .hostRuntime id =>
    have keeps : KeepsTargets s (s.setStatus state (.hostRuntime id)) :=
      { KeepsTargets.refl s with runtimes := .update _ _ fun _ => rfl }
    have later := h.later keeps
    exact ⟨keeps, { later with runtimes := later.runtimes.update id fun _ _ is => is }⟩
  | .component (.publisher id) =>
    have keeps : KeepsTargets s (s.setStatus state (.component (.publisher id))) :=
      { KeepsTargets.refl s with publisherInstances := .update _ _ fun _ => rfl }
    have later := h.later keeps
    exact ⟨keeps, { later with
      publisherInstances := later.publisherInstances.update id fun _ _ is => is }⟩
  | .component (.subscriber id) =>
    have keeps : KeepsTargets s (s.setStatus state (.component (.subscriber id))) :=
      { KeepsTargets.refl s with subscriberInstances := .update _ _ fun _ => rfl }
    have later := h.later keeps
    exact ⟨keeps, { later with
      subscriberInstances := later.subscriberInstances.update id fun _ _ is => is }⟩
  | .component (.job id) =>
    have keeps : KeepsTargets s (s.setStatus state (.component (.job id))) :=
      { KeepsTargets.refl s with jobInstances := .update _ _ fun _ => rfl }
    have later := h.later keeps
    exact ⟨keeps, { later with
      jobInstances := later.jobInstances.update id fun _ _ is => is }⟩

/-! Snapshots and logs. -/

theorem saveSnapshot (owner : JobInstanceId) (identifier : SnapshotIdentifier) (data : Bytes)
    (now : Instant) :
    RefersIn (s.saveSnapshot owner identifier data now).2
      (s.saveSnapshot owner identifier data now).2 := by
  cases found : require s.jobInstances "job instance" owner with
  | error e => simpa [Store.saveSnapshot, found, bind, Except.bind] using h
  | ok row =>
    have there := (Table.contains_iff _ _).2 ⟨row, require_eq_ok_iff.1 found⟩
    simp only [Store.saveSnapshot, found, bind, Except.bind, pure, Except.pure, attempt_ok]
    exact { h with snapshots := h.snapshots.insert ⟨rfl, there⟩ }

theorem transferSnapshot (owner : JobInstanceId) (identifier : SnapshotIdentifier)
    (now : Instant) :
    RefersIn (s.transferSnapshot owner identifier now).2
      (s.transferSnapshot owner identifier now).2 := by
  cases found : require s.jobInstances "job instance" owner with
  | error e => simpa [Store.transferSnapshot, found, bind, Except.bind] using h
  | ok row =>
    have there := (Table.contains_iff _ _).2 ⟨row, require_eq_ok_iff.1 found⟩
    cases stored : require s.snapshots "snapshot" identifier with
    | error e => simpa [Store.transferSnapshot, found, stored, bind, Except.bind] using h
    | ok snapshot =>
      have is := h.snapshots _ _ (require_eq_ok_iff.1 stored)
      simp only [Store.transferSnapshot, found, stored, bind, Except.bind, pure, Except.pure,
        attempt_ok]
      exact { h with snapshots := h.snapshots.insert ⟨is.1, there⟩ }

omit h in
/-- A record is written about a subject that is there, and names no message that is not. -/
theorem appendLog_eq_ok_iff {record : LogRecord} :
    s.appendLog record = (.ok (), t) ↔ s.hasSubject record.subject = true ∧
      (∀ message, record.message = some message → s.messages.contains message = true) ∧
      t = s.recorded record := by
  have subject : (s.status? record.subject).isNone = !s.hasSubject record.subject := by
    rw [← isSome_status?, Option.not_isSome]
  rw [appendLog, attempt_eq_ok_iff, subject]
  unfold recorded
  cases record.status with
  | none =>
    cases record.message <;> cases s.hasSubject record.subject <;>
      simp [require_eq_ok_iff, Table.contains_iff, eq_comm (b := t)]
  | some state =>
    cases record.message <;> cases s.hasSubject record.subject <;>
      simp [require_eq_ok_iff, Table.contains_iff, eq_comm (b := t)]

theorem appendLog (record : LogRecord) :
    RefersIn (s.appendLog record).2 (s.appendLog record).2 := by
  refine Leads.total (m := fun s => s.appendLog record)
    (R := fun s t => RefersIn s s → RefersIn t t) ?_ (fun _ => id) (fun _ => attempt_unchanged) h
  rintro s ⟨⟩ t done h
  obtain ⟨subject, message, rfl⟩ := appendLog_eq_ok_iff.1 done
  unfold recorded
  generalize is : record.status.elim s (s.setStatus · record.subject) = moved
  have ends : KeepsTargets s moved ∧ RefersIn moved moved := by
    subst is
    cases record.status with
    | none => exact ⟨.refl s, h⟩
    | some state => exact h.setStatus state record.subject
  obtain ⟨keeps, refers⟩ := ends
  refine { refers with logs := fun other mem => ?_ }
  rcases List.mem_append.1 mem with before | here
  · exact (h.later keeps).logs other before
  · cases List.mem_singleton.1 here
    exact ⟨keeps.hasSubject subject, fun id named => keeps.messages.contains (message id named)⟩

/-! Deliveries. -/

/-- A publication has looked up all that its message and its tickets refer to. -/
theorem published {fresh : Fresh} {message : Message} {targets : List QueueRef}
    (publishable : s.Publishable message targets) :
    RefersIn (s.published fresh message targets) (s.published fresh message targets) := by
  have later := h.later (t := s.published fresh message targets)
    { KeepsTargets.refl s with messages := .insert fun _ _ => rfl }
  have there : (s.published fresh message targets).messages.contains message.id = true :=
    (Table.contains_iff _ _).2 ⟨message, Table.get?_insert_self _ _ _⟩
  refine { later with
    messages := later.messages.insert ⟨rfl, (Table.contains_iff _ _).2 publishable.messageType,
      (Table.contains_iff _ _).2 publishable.publisher⟩
    tickets := fun id row stored => ?_ }
  rcases get?_foldl_insert (freshTickets fresh message.id targets) s.tickets id with
    ⟨ticket, made, same, found⟩ | ⟨-, found⟩
  · cases stored.symm.trans found
    obtain ⟨i, -, queue, target, rfl⟩ := mem_freshTickets made
    exact ⟨same, there, publishable.queues queue target⟩
  · exact later.tickets id row (found.symm.trans stored)

theorem delivery {call : Call} (is : call.isDelivery = true) (fresh : Fresh) :
    RefersIn (s.perform fresh call).2 (s.perform fresh call).2 := by
  rcases delivery_cases is s fresh with
    same | ⟨message, targets, -, publishable, becomes⟩ |
    ⟨id, row, next, stored, key, queue, message, becomes⟩
  · rw [same]
    exact h
  · rw [becomes]
    exact h.published publishable
  · rw [becomes]
    have there : next.id = id ∧ s.messages.contains next.message = true ∧
        s.hasQueue next.queue = true := by
      rw [key, queue, message]
      exact h.tickets id row stored
    exact { h with tickets := h.tickets.insert there }

theorem after (step : Step) : RefersIn (s.after step) (s.after step) := by
  obtain ⟨fresh, call⟩ := step
  cases registration : call.isRegistration with
  | true => exact registration_leads registrar registration s fresh h
  | false =>
    cases call with
    | startUp | registerHost | startHostRuntime | registerScenario | registerMessageType
    | registerPublisher | registerSubscriber | registerJob => cases registration
    | publish | tryClaim | commit | heartbeat => exact h.delivery rfl fresh
    | endHostRuntime runtime now => exact h.endHostRuntime runtime now
    | startInstance record => exact h.startInstance record
    | touchInstance ref now => exact h.touchInstance ref now
    | saveSnapshot owner identifier data now => exact h.saveSnapshot owner identifier data now
    | transferSnapshot owner identifier now => exact h.transferSnapshot owner identifier now
    | deleteSnapshot identifier => exact { h with snapshots := h.snapshots.erase identifier }
    | appendLog record => exact h.appendLog record
    | messageTypeByName | messageTypeById | loadSubscriber | loadJob | resolveTargets
    | findNextFifo | findNextNonFifo | loadTicket | loadMessage | ticketsForMessage
    | countByState | loadSnapshot | listLogs | currentState => exact h

end RefersIn

theorem refersIn_run (steps : List Step) : RefersIn (run .empty steps) (run .empty steps) := by
  have begun : RefersIn .empty .empty :=
    ⟨.empty, .empty, .empty, .empty, .empty, .empty, .empty, fun _ mem => nomatch mem⟩
  have keeps (s : Store) (step : Step) (h : RefersIn s s) :
      RefersIn (s.after step) (s.after step) := h.after step
  exact run_keeps (P := fun s => RefersIn s s) keeps begun steps

/-- Every row stands under its own key, and what it refers to is in the store. -/
structure Referential (s : Store) : Prop extends RefersIn s s where
  hosts : s.hosts.Holds fun id row => row.id = id
  scenarios : s.scenarios.Holds fun id row => row.id = id
  messageTypes : s.messageTypes.Holds fun id row => row.id = id
  publishers : s.publishers.Holds fun id row => row.id = id ∧
    s.scenarios.contains row.scenario ∧ s.messageTypes.contains row.messageType
  subscribers : s.subscribers.Holds fun id row => row.id = id ∧
    s.scenarios.contains row.scenario ∧ s.messageTypes.contains row.messageType
  jobs : s.jobs.Holds fun id row => row.id = id ∧
    s.scenarios.contains row.scenario ∧
    ∀ messageType, row.messageType = some messageType → s.messageTypes.contains messageType

theorem HasParts.contains {s : Store} {scenario : ScenarioId} {messageType : Option MessageTypeId}
    (h : s.HasParts scenario messageType) : s.scenarios.contains scenario = true ∧
      ∀ id, messageType = some id → s.messageTypes.contains id = true :=
  ⟨(Table.contains_iff _ _).2 h.scenario,
    fun id is => (Table.contains_iff _ _).2 (h.messageType id is)⟩

theorem referential_run (steps : List Step) : Referential (run .empty steps) := by
  have catalog := identified_run steps
  exact { refersIn_run steps with
    hosts := catalog.hostKeys
    scenarios := catalog.scenarioKeys
    messageTypes := catalog.typeKeys
    publishers := fun id row stored => by
      obtain ⟨scenario, messageType⟩ := (catalog.rooted.publishers id row stored).contains
      exact ⟨catalog.publisherKeys id row stored, scenario, messageType _ rfl⟩
    subscribers := fun id row stored => by
      obtain ⟨scenario, messageType⟩ := (catalog.rooted.subscribers id row stored).contains
      exact ⟨catalog.subscriberKeys id row stored, scenario, messageType _ rfl⟩
    jobs := fun id row stored =>
      ⟨catalog.jobKeys id row stored, (catalog.rooted.jobs id row stored).contains⟩ }

/-- A claim fails only when it is made for another queue: the message of a ticket is there. -/
theorem Referential.wrongQueue_of_failed {s : Store} (h : Referential s) {fresh : Fresh}
    {candidate : Ticket} {consumer : Consumer} {timeout : Duration} {now : Instant} {e : StoreError}
    (failed : (s.tryClaim fresh candidate consumer timeout now).1 = .error e) :
    candidate.queue ≠ consumer.queue ∧ e = wrongQueue candidate consumer := by
  by_cases queue : candidate.queue = consumer.queue
  · cases stored : s.tickets.get? candidate.id with
    | none =>
      rw [tryClaim_of_missing queue stored] at failed
      cases failed
    | some row =>
      cases accepted : row.acceptsClaim candidate.token timeout now with
      | false =>
        rw [tryClaim_of_refused queue stored accepted] at failed
        cases failed
      | true =>
        obtain ⟨-, message, -⟩ := h.tickets _ _ stored
        obtain ⟨message, found⟩ := (Table.contains_iff _ _).1 message
        rw [tryClaim_of_accepted queue stored accepted, require_eq_ok_iff.2 found] at failed
        cases failed
  · rw [tryClaim_of_wrongQueue queue] at failed
    cases failed
    exact ⟨queue, rfl⟩

end Store

namespace Worker
open Store Routine
variable {η : Type} {w : Worker η} {s : Store} {moves : List (Move η)} {d : Delivery}

/-- Where the type of its message is there, a delivery is processed to its end, whatever others do
meanwhile. -/
theorem processed_of_reaches {outcome : Except StoreError PollOutcome}
    (there : ∃ row, s.messageTypes.get? d.message.messageType = some row)
    (h : Reaches (w.process d).run s moves (.done outcome)) :
    ∃ state committed, outcome = .ok (.processed d.ticket.id state committed) := by
  have parts : w.process d =
      w.preparing d >>= fun ready => w.committing d ready.1 ready.2.1 ready.2.2 := by
    rw [process_eq]
    simp only [preparing, concluding, committing, bind_assoc, pure_bind]
  rw [parts] at h
  obtain ⟨ready, before, _, rfl, prepares, ends⟩ := h.split_done
  obtain ⟨result, made, now, _, rfl, -, -⟩ := prepared_of_reaches there prepares
  obtain ⟨_, _, committed, _, -, -, -, is⟩ := committed_of_reaches ends
  exact ⟨_, _, is⟩

end Worker

namespace Store
open Routine

/-- Each reference in the store leads to a row. So a claim fails for no other reason than that it is
made for another queue, and what a worker has claimed it processes to the end, since it finds the type
of the message. -/
theorem references_resolve (steps : List Step) :
    Referential (run .empty steps) ∧
    (∀ fresh candidate consumer timeout now e,
      ((run .empty steps).tryClaim fresh candidate consumer timeout now).1 = .error e →
      candidate.queue ≠ consumer.queue ∧ e = wrongQueue candidate consumer) ∧
    ∀ {η : Type} (w : Worker η) (fresh : Fresh) (candidate : Ticket) (timeout : Duration)
      (now : Instant) (d : Delivery),
      ((run .empty steps).tryClaim fresh candidate w.consumer timeout now).1 = .ok (.claimed d) →
      ∀ (moves : List (Move η)) (outcome : Except StoreError PollOutcome),
      Reaches (w.process d).run
        ((run .empty steps).tryClaim fresh candidate w.consumer timeout now).2 moves
        (.done outcome) →
      ∃ state committed, outcome = .ok (.processed d.ticket.id state committed) := by
  refine ⟨referential_run steps, ?_, ?_⟩
  · intro fresh candidate consumer timeout now e failed
    exact (referential_run steps).wrongQueue_of_failed failed
  · intro η w fresh candidate timeout now d claimed moves outcome processes
    obtain ⟨row, -, -, -, message, -⟩ := accepted_of_claimed claimed
    obtain ⟨-, type, -⟩ := (referential_run steps).messages _ _ message
    have stays := KeepsTypes.after (run .empty steps)
      ⟨fresh, .tryClaim candidate w.consumer timeout now⟩ _ ((Table.contains_iff _ _).1 type)
    exact Worker.processed_of_reaches stays processes

/-- The clerk processes what it has claimed. -/
theorem references_resolve_clerk :
    ∃ moves outcome, Reaches (clerk.process clerkDelivery).run
      ((run .empty (clerkAtWork ++ stepsOf Worker.clerkSeeking)).after Worker.clerkClaims)
      moves (.done outcome) ∧
      ∃ state committed, outcome = .ok (.processed ticketAtFirst.id state committed) := by
  have polled : Reaches clerk.runOnce.run (run .empty clerkAtWork)
      (Worker.clerkSeeking ++ .own
        (.attempt (.tryClaim ticketAtFirst runner clerk.policy.processingTimeout default))
        [Worker.clerkClaims] (.ok (.claimed clerkDelivery)) :: Worker.clerkAnswers) _ :=
    Worker.reaches_clerk
  obtain ⟨next, reached, -, h⟩ := polled.cut
  obtain ⟨-, -, goesOn⟩ := Worker.reaches_claim reached
  rw [goesOn, run_append, ← run_append] at h
  obtain ⟨outcome, moves, _, -, processes, -⟩ := h.split_done
  refine ⟨moves, outcome, processes, ?_⟩
  exact (references_resolve (clerkAtWork ++ stepsOf Worker.clerkSeeking)).2.2 clerk
    (freshFrom 2000) ticketAtFirst _ _ clerkDelivery rfl moves outcome processes

end Store
end MessageBus
