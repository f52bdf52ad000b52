import MessageBus.Database.Delivery
import MessageBus.Database.Record
import MessageBus.Proofs.Catalog
import MessageBus.Proofs.Conservation
import MessageBus.Proofs.Transaction

/-! The transactions of the client: publishing, logging and startups. The steps of each are its
inserts and updates or, in a startup, the registrations of the plan; all of them go through before
the COMMIT. -/
namespace MessageBus.Database
open StartupPlan

variable {α : Type}

/-! Work whose statements must touch one row each. -/

/-- The step was one statement, and it touched one row. -/
def OneRow (step : List Exchange) : Prop :=
  ∃ sql params reply, step = [⟨.execute sql params, .ok reply⟩] ∧ reply.affected = 1

theorem inSteps_of_executeOne {operation sql : String} {params : List SqlParam} :
    InSteps OneRow (Session.executeOne operation sql params) :=
  .of_takes SendsOne.executeOne.takes fun _ _ _ touched => touched

/-- The inserts of a message and its tickets. -/
def insertWithTickets (m : Message) (tickets : List Ticket) : Session PublishReceipt := do
  insertMessage m
  tickets.forM insertTicket
  return ⟨m.id, tickets.map fun t => (t.queue, t.id)⟩

theorem insertWithTickets_inSteps (m : Message) (tickets : List Ticket) :
    InSteps OneRow (insertWithTickets m tickets) := by
  refine inSteps_of_executeOne.andThen fun _ => ?_
  exact (InSteps.forM (fun t => inSteps_of_executeOne) tickets).andThen fun _ => .done _

theorem publish_of_valid {targets : List QueueRef} (valid : validateTargets targets = .ok ())
    (fresh : Store.Fresh) (m : Message) :
    publish fresh m targets =
      Session.transaction .abandon (insertWithTickets m (Store.freshTickets fresh m.id targets)) := by
  rw [publish, valid]
  rfl

/-- Targets that are refused are refused before anything is sent. -/
theorem publish_of_invalid {targets : List QueueRef} {e : StoreError}
    (invalid : validateTargets targets = .error e) (fresh : Store.Fresh) (m : Message) :
    publish fresh m targets = throw e := by
  rw [publish, invalid]
  rfl

/-- The insert of a record, and the update of the status that it carries. -/
def writeLog (r : LogRecord) : Session Unit := do
  let place := LogPlace.ofSubject r.subject
  insertLog place r
  if let some status := r.status then
    Session.executeOne "update_status"
      s!"UPDATE {place.owner} SET state = $2 WHERE {place.idColumn} = $1"
      [.uuid place.id, .code status.code]

theorem appendLog_eq (r : LogRecord) :
    appendLog r = Session.transaction .abandon (writeLog r) := rfl

theorem writeLog_inSteps (r : LogRecord) : InSteps OneRow (writeLog r) := by
  refine inSteps_of_executeOne.andThen fun _ => ?_
  split
  · exact inSteps_of_executeOne
  · exact .done ()

/-! The steps of a startup. -/

/-- A single registration in a startup, or the look-up of a type. -/
inductive RegistrationStep where
  | host (host : Host)
  | hostRuntime (runtime : HostRuntime)
  | scenario (scenario : Scenario)
  | messageType (spec : MessageTypeSpec)
  | findType (name : String)
  | publisher (row : Publisher)
  | subscriber (row : Subscriber)
  | job (row : Job)
  | start (record : InstanceRecord)

namespace RegistrationStep

abbrev Answer : RegistrationStep → Type
  | host _ => Host
  | hostRuntime _ => Unit
  | scenario _ => Scenario
  | messageType _ => MessageType
  | findType _ => MessageType
  | publisher _ => Publisher
  | subscriber _ => Subscriber
  | job _ => Job
  | start _ => Unit

def session : (step : RegistrationStep) → Session step.Answer
  | .host row => upsertHost row
  | .hostRuntime row => insertHostRuntime row
  | .scenario row => upsertScenario row
  | messageType spec => upsertMessageType spec
  | findType name => StartupPlan.findType registrar name
  | publisher row => upsertPublisher row
  | subscriber row => upsertSubscriber row
  | job row => upsertJob row
  | start record => insertInstance record

end RegistrationStep

/-- The first row of the reply, as it is read. -/
def Gives (ofRow : SqlRow → Except StoreError α) (reply : SqlReply) (a : α) : Prop :=
  ∃ row, reply.rows.head? = some row ∧ ofRow row = .ok a

/-- The row came back from an upsert, or the upsert gave none and the row that was looked up is the
one that is asked for. -/
def Upserted (ofRow : SqlRow → Except StoreError α) (Same : α → Prop) (said : List Exchange)
    (stored : α) : Prop :=
  Replied (Gives ofRow) said stored ∨
  ∃ sql params nothing query keys reply,
    said = [⟨.execute sql params, .ok nothing⟩, ⟨.execute query keys, .ok reply⟩] ∧
    nothing.rows = [] ∧ Gives ofRow reply stored ∧ Same stored

namespace RegistrationStep

/-- The step passed its checks: a row that must be new was inserted once, and a row that may be
there already came back with the identity that is asked for. -/
def Passed : (step : RegistrationStep) → List Exchange → step.Answer → Prop
  | .host row => Replied fun reply stored => Gives hostOfRow reply stored ∧ stored.name = row.name
  | hostRuntime _ => Replied fun reply _ => reply.affected = 1
  | .scenario row => Replied fun reply stored =>
      Gives scenarioOfRow reply stored ∧ stored.name = row.name
  | messageType spec => Replied fun reply stored =>
      Gives messageTypeOfRow reply stored ∧ stored.typeName = spec.typeName
  | findType _ => Replied (Gives messageTypeOfRow)
  | publisher row => Replied fun reply stored => Gives publisherOfRow reply stored ∧
      stored.name = row.name ∧ stored.scenario = row.scenario ∧
      stored.messageType = row.messageType
  | subscriber row => Upserted subscriberOfRow fun stored =>
      stored.name = row.name ∧ stored.scenario = row.scenario ∧
      stored.messageType = row.messageType
  | job row => Upserted jobOfRow fun stored => stored.messageType = row.messageType
  | start _ => Replied fun reply _ => reply.affected = 1

end RegistrationStep

section
variable {β : Type} {ofRow : SqlRow → Except StoreError α} {sql : String}

theorem Silent.readRow (row : SqlRow) : Silent (fun a => ofRow row = .ok a) (readRow ofRow row) :=
  computed fun _ is => is

theorem Silent.same [DecidableEq β] [Shown β] {entity key field : String} (a b : β) :
    Silent (fun _ => a = b) (same entity key field a b) :=
  computed fun _ agree => Store.ensureSame_eq_ok_iff.1 agree

/-- A statement whose row is read and then checked. -/
theorem SendsOne.readRow {m : Session SqlRow} {check : α → Session β} {R : SqlReply → β → Prop}
    (h : SendsOne sql (fun reply row => reply.rows.head? = some row) m)
    (checked : ∀ reply a, Gives ofRow reply a → Silent (R reply) (check a)) :
    SendsOne sql R (m >>= fun row => Database.readRow ofRow row >>= check) :=
  h.andThen fun reply row given =>
    (Silent.readRow row).andThen fun a read => checked reply a ⟨row, given, read⟩

theorem SendsOne.rowGiven {m : Session (Option SqlRow)}
    (h : SendsOne sql (fun reply row? => reply.rows.head? = row?) m) :
    SendsOne sql (fun reply row? => ∀ row, row? = some row → reply.rows.head? = some row) m :=
  h.mono fun _ _ given _ is => given.trans is

/-- A statement whose row, if there is one, is read. -/
theorem SendsOne.readRow? {m : Session (Option SqlRow)}
    (h : SendsOne sql (fun reply row? => reply.rows.head? = row?) m) :
    SendsOne sql (fun reply found => ∀ a, found = some a → Gives ofRow reply a)
      (m >>= fun row? => Database.readRow? ofRow row?) := by
  refine h.andThen fun reply row? given => Silent.computed ?_
  rintro _ read a rfl
  cases row? with
  | none => cases read
  | some row =>
    rw [Option.mapM_some, Store.map_eq_ok_iff] at read
    obtain ⟨_, read, is⟩ := read
    obtain rfl := Option.some.inj is
    exact ⟨row, given, read⟩

/-- A statement that must find something, which is then checked. -/
theorem SendsOne.present {γ : Type} {Q : SqlReply → γ → Prop} {R : SqlReply → β → Prop}
    {m : Session (Option γ)} {check : Option γ → Session β}
    (h : SendsOne sql (fun reply found => ∀ c, found = some c → Q reply c) m)
    (absent : ∃ e, check none = throw e)
    (checked : ∀ reply c, Q reply c → Silent (R reply) (check (some c))) :
    SendsOne sql R (m >>= check) := by
  refine h.andThen fun reply found holds => ?_
  cases found with
  | none =>
    obtain ⟨e, is⟩ := absent
    rw [is]
    exact Silent.failed _ e
  | some c => exact checked reply c (holds c rfl)

/-- A row that an upsert gives is read; where it gives none, another statement looks it up. -/
theorem SendsOne.orLookUp {query : String} {m : Session (Option SqlRow)}
    {f : Option SqlRow → Session α} {Same : α → Prop}
    (h : SendsOne sql (fun reply row? => reply.rows.head? = row?) m)
    (given : ∀ row, f (some row) = Database.readRow ofRow row)
    (look : query.startsWith "SELECT " = true)
    (found : SendsOne query (fun reply a => Gives ofRow reply a ∧ Same a) (f none)) :
    Takes (Upserted ofRow Same) (m >>= f) := by
  intro sent outcome ends
  rcases ends.bind_cases with ⟨e, failed, rfl⟩ | ⟨row?, first, rest, rfl, early, late⟩
  · obtain ⟨params, answer, rfl, -⟩ := h _ _ failed
    exact ⟨⟨sql, params, answer, [], rfl, nofun⟩, nofun⟩
  · obtain ⟨params, answer, rfl, replied⟩ := h _ _ early
    obtain ⟨reply, rfl, head⟩ := replied row? rfl
    cases row? with
    | some row =>
      rw [given] at late
      obtain ⟨rfl, read⟩ := Silent.readRow row _ _ late
      refine ⟨⟨sql, params, .ok reply, [], rfl, nofun⟩, fun a is => ⟨?_, .inl ?_⟩⟩
      · simp [Exchange.failed]
      · exact ⟨sql, params, reply, rfl, row, head, read a is⟩
    | none =>
      obtain ⟨keys, answer, rfl, replied⟩ := found _ _ late
      refine ⟨⟨sql, params, .ok reply, _, rfl, ?_⟩, fun a is => ?_⟩
      · simpa [SqlRequest.reads] using look
      · obtain ⟨more, rfl, gives, same⟩ := replied a is
        have nothing : reply.rows = [] := List.head?_eq_none_iff.1 head
        refine ⟨by simp [Exchange.failed], .inr ?_⟩
        exact ⟨sql, params, reply, query, keys, more, rfl, nothing, gives, same⟩

end

namespace RegistrationStep

theorem host_takes (row : Host) : Takes (host row).Passed (upsertHost row) := by
  refine (SendsOne.rowOr.readRow fun reply stored gives => ?_).takes
  exact (Silent.same _ _).andThen fun _ name => .done ⟨gives, name⟩

theorem hostRuntime_takes (row : HostRuntime) :
    Takes (hostRuntime row).Passed (insertHostRuntime row) := SendsOne.executeOne.takes

theorem scenario_takes (row : Scenario) : Takes (scenario row).Passed (upsertScenario row) := by
  refine (SendsOne.rowOr.readRow fun reply stored gives => ?_).takes
  exact (Silent.same _ _).andThen fun _ name => .done ⟨gives, name⟩

theorem messageType_takes (spec : MessageTypeSpec) :
    Takes (messageType spec).Passed (upsertMessageType spec) := by
  refine (SendsOne.rowOr.readRow fun reply stored gives => ?_).takes
  exact (Silent.same _ _).andThen fun _ typeName => .done ⟨gives, typeName⟩

theorem findType_takes (name : String) :
    Takes (findType name).Passed (StartupPlan.findType registrar name) := by
  refine (SendsOne.row?.readRow?.present ⟨_, rfl⟩ fun reply found gives => ?_).takes
  exact .done gives

theorem publisher_takes (row : Publisher) :
    Takes (publisher row).Passed (upsertPublisher row) := by
  refine (SendsOne.rowOr.readRow fun reply stored gives => ?_).takes
  refine (Silent.same _ _).andThen fun _ name => ?_
  refine (Silent.same _ _).andThen fun _ scenario => ?_
  exact (Silent.same _ _).andThen fun _ type => .done ⟨gives, name, scenario, type⟩

theorem subscriber_takes (row : Subscriber) :
    Takes (subscriber row).Passed (upsertSubscriber row) := by
  have looksUp : SendsOne _ _ (findSubscriber row.id) := SendsOne.row?.readRow?
  refine SendsOne.row?.orLookUp (fun _ => rfl) ?_
    (looksUp.present ⟨_, rfl⟩ fun reply stored gives => ?_)
  · decide +kernel
  · refine (Silent.same _ _).andThen fun _ name => ?_
    refine (Silent.same _ _).andThen fun _ scenario => ?_
    exact (Silent.same _ _).andThen fun _ type => .done ⟨gives, name, scenario, type⟩

theorem job_takes (row : Job) : Takes (job row).Passed (upsertJob row) := by
  refine SendsOne.row?.orLookUp (fun _ => rfl) ?_
    (SendsOne.row?.rowGiven.present ⟨_, rfl⟩ fun reply found given => ?_)
  · decide +kernel
  · refine (Silent.readRow found).andThen fun stored read => ?_
    exact (Silent.same _ _).andThen fun _ type => .done ⟨⟨found, given, read⟩, type⟩

theorem start_takes (record : InstanceRecord) :
    Takes (start record).Passed (insertInstance record) := by
  cases record <;> exact SendsOne.executeOne.takes

/-- Every step of a startup is done only where it passes its checks. -/
theorem takes (step : RegistrationStep) : Takes step.Passed step.session := by
  cases step with
  | host row => exact host_takes row
  | hostRuntime row => exact hostRuntime_takes row
  | scenario row => exact scenario_takes row
  | messageType spec => exact messageType_takes spec
  | findType name => exact findType_takes name
  | publisher row => exact publisher_takes row
  | subscriber row => exact subscriber_takes row
  | job row => exact job_takes row
  | start record => exact start_takes record

end RegistrationStep

/-- The exchanges are those of a registration that passed its checks. -/
def PassedRegistration (said : List Exchange) : Prop :=
  ∃ step : RegistrationStep, ∃ a, Ends step.session.run said (.ok a) ∧ step.Passed said a

theorem RegistrationStep.inSteps (step : RegistrationStep) :
    InSteps PassedRegistration step.session :=
  .of_takes step.takes fun _ a ends passed => ⟨step, a, ends, passed⟩

/-- The registrations of a plan are sent one after the other. -/
theorem registrar_inSteps : Inherited (fun _ => InSteps PassedRegistration) registrar where
  done := .done
  failed := .failed
  andThen := InSteps.andThen
  host row := (RegistrationStep.host row).inSteps
  hostRuntime row := (RegistrationStep.hostRuntime row).inSteps
  scenario row := (RegistrationStep.scenario row).inSteps
  messageType spec := (RegistrationStep.messageType spec).inSteps
  findType name := (RegistrationStep.findType name).inSteps
  publisher row := (RegistrationStep.publisher row).inSteps
  subscriber row := (RegistrationStep.subscriber row).inSteps
  job row := (RegistrationStep.job row).inSteps
  start record := (RegistrationStep.start record).inSteps

theorem publish_goes (db : Script) (fresh : Store.Fresh) (m : Message) {targets : List QueueRef}
    (valid : targets ≠ [] ∧ targets.Nodup) :
    AllOrNothing OneRow .abandon (insertWithTickets m (Store.freshTickets fresh m.id targets))
      (converse db [] (publish fresh m targets).run).1
      (converse db [] (publish fresh m targets).run).2 := by
  have ends := converse_ends db [] (publish fresh m targets).run
  rw [publish_of_valid ((validateTargets_eq_ok_iff targets).2 valid)] at ends ⊢
  exact (transaction_goes ends).allOrNothing (insertWithTickets_inSteps m _)

theorem publish_refuses (db : Script) (fresh : Store.Fresh) (m : Message) {targets : List QueueRef}
    (invalid : ¬ (targets ≠ [] ∧ targets.Nodup)) :
    ∃ e, converse db [] (publish fresh m targets).run = ([], .error e) := by
  cases checked : validateTargets targets with
  | ok => exact absurd ((validateTargets_eq_ok_iff targets).1 checked) invalid
  | error e =>
    rw [publish_of_invalid checked]
    exact ⟨e, rfl⟩

/-- Every transaction of the client commits all of its work or nothing, whatever the database
answers, and a publish to no queue, or more than once to one, sends nothing. -/
theorem transactions_all_or_nothing (db : Script) :
    (∀ fresh m targets,
      if targets ≠ [] ∧ targets.Nodup then
        AllOrNothing OneRow .abandon (insertWithTickets m (Store.freshTickets fresh m.id targets))
          (converse db [] (publish fresh m targets).run).1
          (converse db [] (publish fresh m targets).run).2
      else ∃ e, converse db [] (publish fresh m targets).run = ([], .error e)) ∧
    (∀ r, AllOrNothing OneRow .abandon (writeLog r)
      (converse db [] (appendLog r).run).1 (converse db [] (appendLog r).run).2) ∧
    (∀ plan now, AllOrNothing PassedRegistration .rollback (plan.carryOut registrar now)
      (converse db [] (startUp plan now).run).1 (converse db [] (startUp plan now).run).2) := by
  refine ⟨fun fresh m targets => ?_, fun r => ?_, fun plan now => ?_⟩
  · split
    · next valid => exact publish_goes db fresh m valid
    · next invalid => exact publish_refuses db fresh m invalid
  · rw [appendLog_eq]
    exact (transaction_goes (converse_ends db [] _)).allOrNothing (writeLog_inSteps r)
  · exact (transaction_goes (converse_ends db [] _)).allOrNothing
      (registrar_inSteps.carryOut plan now)

/-- A database that takes every statement for one row, and refuses to commit. -/
def refusingCommit : Script
  | _, .acquire => .ok ()
  | _, .execute .. => .ok ⟨[], 1⟩
  | _, .begin => .ok ()
  | _, .commit => .error (.refused "40001" "could not serialize access" none)
  | _, .rollback => .ok ()
  | _, .abandon => ()

/-- A COMMIT that fails is not the last that is sent: the dropped transaction is rolled back. -/
theorem commit_not_last :
    ¬ ∀ before answer after,
      (converse refusingCommit []
        (publish (Store.freshFrom 1000) Store.oneMessage [.subscriber ⟨.ofNat 5⟩]).run).1 =
          before ++ ⟨.commit, answer⟩ :: after → after = [] := by
  intro last
  have := last [_, _, _] _ [_] rfl
  cases this

end MessageBus.Database
