import MessageBus.Proofs.References

/-! The journal of a store. A run writes the records of those calls that succeed, in their order,
and nothing that it does later takes one away. The status of a subject is the one that was written
last, unless the subject has been given another one since. -/
namespace MessageBus

section
variable {α : Type} {le : α → α → Bool}
variable (trans : ∀ a b c, le a b = true → le b c = true → le a c = true)
variable (total : ∀ a b, (le a b || le b a) = true)
include trans total

/-- An element goes in front of those that it does not exceed. -/
theorem mergeSort_cons_eq (a : α) (as : List α) :
    (a :: as).mergeSort le =
      (as.mergeSort le).filter (fun b => !le a b) ++ a :: (as.mergeSort le).filter (le a) := by
  obtain ⟨below, above, is, rest, less⟩ := List.mergeSort_cons trans total a as
  have sorted := List.pairwise_mergeSort trans total (a :: as)
  rw [is] at sorted
  have more : ∀ b ∈ above, le a b = true :=
    (List.pairwise_cons.1 (List.pairwise_append.1 sorted).2.1).1
  have noneAbove : above.filter (fun b => !le a b) = [] :=
    List.filter_eq_nil_iff.2 fun b mem => by simp [more b mem]
  have noneBelow : below.filter (le a) = [] :=
    List.filter_eq_nil_iff.2 fun b mem => by simpa using less b mem
  rw [is, rest, List.filter_append, List.filter_append, List.filter_eq_self.2 less, noneAbove,
    List.filter_eq_self.2 more, noneBelow, List.append_nil, List.nil_append]

/-- What is added at the end of a list goes in between what was sorted before. -/
theorem sublist_mergeSort_append (as bs : List α) :
    (as.mergeSort le).Sublist ((as ++ bs).mergeSort le) := by
  -- Both lists are cut at the first element, whose place among the others `le` alone decides.
  induction as with
  | nil =>
    rw [List.mergeSort_nil]
    exact List.nil_sublist _
  | cons a as ih =>
    rw [List.cons_append, mergeSort_cons_eq trans total, mergeSort_cons_eq trans total]
    exact (ih.filter _).append ((ih.filter _).cons_cons a)

/-- Elements of equal rank stay in their order. -/
theorem filter_mergeSort {p : α → Bool} (equal : ∀ a b, p a = true → p b = true → le a b = true)
    (as : List α) : (as.mergeSort le).filter p = as.filter p := by
  have sorted : (as.filter p).Pairwise fun a b => le a b = true :=
    List.pairwise_of_forall_mem_list fun a first b second =>
      equal a b (List.mem_filter.1 first).2 (List.mem_filter.1 second).2
  -- These elements are in order already, hence a sublist of the sorted list, of the same length.
  have within := (List.sublist_mergeSort trans total sorted List.filter_sublist).filter p
  rw [List.filter_filter] at within
  simp only [Bool.and_self] at within
  exact (within.eq_of_length ((List.mergeSort_perm as le).filter p).length_eq.symm).symm

end

/-- The status that the record gives the subject. -/
def LogRecord.statusOf (subject : LogSubject) (record : LogRecord) : Option ComponentState :=
  if record.subject = subject then record.status else none

namespace Store

/-! What a run writes. -/

/-- The record that the call writes when it succeeds. -/
def Call.record? : Call → Option LogRecord
  | .appendLog record => some record
  | _ => none

def Step.record? (s : Store) (step : Step) : Option LogRecord :=
  match step.answer s with
  | .ok _ => step.call.record?
  | .error _ => none

theorem Step.record?_eq_none {s : Store} {step : Step} (h : step.call.record? = none) :
    step.record? s = none := by
  unfold Step.record?
  split
  · exact h
  · rfl

/-- A record is written by a call for it that succeeds. -/
theorem Step.record?_eq_some {s : Store} {step : Step} {record : LogRecord}
    (h : step.record? s = some record) :
    s.appendLog record = (.ok (), s.after step) := by
  obtain ⟨fresh, call⟩ := step
  unfold Step.record? at h
  split at h
  · next ok =>
    cases call with
    | appendLog other =>
      cases h
      exact Prod.ext ok rfl
    | _ => cases h
  · cases h

/-- The records that a run writes, in order. -/
def logged (s : Store) : List Step → List LogRecord
  | [] => []
  | step :: rest => (step.record? s).toList ++ logged (s.after step) rest

theorem logged_append (s : Store) (xs ys : List Step) :
    s.logged (xs ++ ys) = s.logged xs ++ (s.run xs).logged ys := by
  induction xs generalizing s with
  | nil => rfl
  | cons step xs ih => simp [logged, ih]

/-- The logs of both stores are the same. -/
def SameLogs (s t : Store) : Prop := t.logs = s.logs

theorem SameLogs.of_frame {s t u : Store} (frame : t = u) (logs : u.logs = s.logs) : SameLogs s t := by
  subst frame
  exact logs

theorem perform_sameLogs {call : Call} (h : call.record? = none) (s : Store) (fresh : Fresh) :
    SameLogs s (s.perform fresh call).2 := by
  have confined := perform_confined s fresh call
  cases call with
  | appendLog => cases h
  | _ => exact .of_frame confined rfl

/-- Every step leaves the logs as they are but for the record that it writes. -/
theorem logs_after (s : Store) (step : Step) :
    (s.after step).logs = s.logs ++ (step.record? s).toList := by
  obtain ⟨fresh, call⟩ := step
  cases writes : call.record? with
  | none =>
    rw [Step.record?_eq_none writes, Option.toList_none, List.append_nil]
    exact perform_sameLogs writes s fresh
  | some record =>
    cases call with
    | appendLog record =>
      rcases appendLog_cases s record with written | ⟨e, refused⟩
      · simp [Step.record?, Step.answer, after, perform, written, Call.record?, recorded]
      · simp [Step.record?, Step.answer, after, perform, refused]
    | _ => cases writes

theorem logs_run (s : Store) (steps : List Step) :
    (s.run steps).logs = s.logs ++ s.logged steps := by
  induction steps generalizing s with
  | nil => exact (List.append_nil _).symm
  | cons step steps ih => rw [run_cons, ih, logs_after, logged, List.append_assoc]

/-! What becomes of the status of a subject. -/

/-- The call may give the subject a status of its own when the subject is there. -/
def Call.resets (subject : LogSubject) : Call → Bool
  | .endHostRuntime runtime _ => subject == .hostRuntime runtime
  | .startInstance record => subject == .component record.ref
  | _ => false

/-- Whoever has a status keeps it. -/
structure KeepsStatuses (s t : Store) : Prop where
  runtimes : Keeps HostRuntime.state s.runtimes t.runtimes
  publishers : Keeps Instance.state s.publisherInstances t.publisherInstances
  subscribers : Keeps Instance.state s.subscriberInstances t.subscriberInstances
  jobs : Keeps Instance.state s.jobInstances t.jobInstances

namespace KeepsStatuses
variable {s t u : Store}

theorem refl (s : Store) : KeepsStatuses s s := ⟨.refl _ _, .refl _ _, .refl _ _, .refl _ _⟩

theorem trans (h : KeepsStatuses s t) (k : KeepsStatuses t u) : KeepsStatuses s u :=
  ⟨h.runtimes.trans k.runtimes, h.publishers.trans k.publishers,
    h.subscribers.trans k.subscribers, h.jobs.trans k.jobs⟩

/-- Where the four tables are the same, so are the statuses. -/
theorem of_frame (frame : t = u) (runtimes : u.runtimes = s.runtimes)
    (publishers : u.publisherInstances = s.publisherInstances)
    (subscribers : u.subscriberInstances = s.subscriberInstances)
    (jobs : u.jobInstances = s.jobInstances) : KeepsStatuses s t := by
  subst frame
  exact ⟨.of_eq runtimes, .of_eq publishers, .of_eq subscribers, .of_eq jobs⟩

theorem status? (h : KeepsStatuses s t) {subject : LogSubject} {state : ComponentState}
    (is : s.status? subject = some state) : t.status? subject = some state := by
  match subject with
  | .hostRuntime id =>
    obtain ⟨row, there, rfl⟩ := Option.map_eq_some_iff.1 is
    obtain ⟨next, stored, same⟩ := h.runtimes id row there
    exact Option.map_eq_some_iff.2 ⟨next, stored, same⟩
  | .component (.publisher id) =>
    obtain ⟨row, there, rfl⟩ := Option.map_eq_some_iff.1 is
    obtain ⟨next, stored, same⟩ := h.publishers id row there
    exact Option.map_eq_some_iff.2 ⟨next, stored, same⟩
  | .component (.subscriber id) =>
    obtain ⟨row, there, rfl⟩ := Option.map_eq_some_iff.1 is
    obtain ⟨next, stored, same⟩ := h.subscribers id row there
    exact Option.map_eq_some_iff.2 ⟨next, stored, same⟩
  | .component (.job id) =>
    obtain ⟨row, there, rfl⟩ := Option.map_eq_some_iff.1 is
    obtain ⟨next, stored, same⟩ := h.jobs id row there
    exact Option.map_eq_some_iff.2 ⟨next, stored, same⟩

/-- A new instance takes the place of none. -/
theorem putInstance {record : InstanceRecord} (new : s.hasInstance record.ref = false) :
    KeepsStatuses s (s.putInstance record) := by
  have unused {κ α : Type} [DecidableEq κ] {table : Table κ α} {key : κ}
      (free : table.contains key = false) : table.get? key = none := by
    simpa [Table.contains] using free
  cases record with
  | publisher row =>
    exact { refl s with publishers := .insert_new (unused new) _ }
  | subscriber row =>
    exact { refl s with subscribers := .insert_new (unused new) _ }
  | job row =>
    exact { refl s with jobs := .insert_new (unused new) _ }

/-- Registrations that succeed start nothing that is there. -/
theorem registrar : WritesLead KeepsStatuses registrar where
  refl := refl
  trans := trans
  host host := .always fun s => .of_frame (registerHost_frame s host) rfl rfl rfl rfl
  hostRuntime runtime s _ t done := by
    obtain ⟨-, unused, becomes⟩ := startHostRuntime_eq_ok_iff.1 done
    subst becomes
    exact { refl s with runtimes := .insert_new unused _ }
  scenario scenario := .always fun s =>
    .of_frame (registerScenario_frame s scenario) rfl rfl rfl rfl
  messageType spec := .always fun s =>
    .of_frame (registerMessageType_frame s spec) rfl rfl rfl rfl
  messageTypeByName _ := .always refl
  publisher row := .always fun s => .of_frame (putPublisher_frame s row) rfl rfl rfl rfl
  subscriber row := .always fun s => .of_frame (putSubscriber_frame s row) rfl rfl rfl rfl
  job row := .always fun s => .of_frame (putJob_frame s row) rfl rfl rfl rfl
  start record s _ t done := by
    obtain ⟨-, new, becomes⟩ := startInstance_eq_ok_iff.1 done
    subst becomes
    exact putInstance new

theorem touchInstance (s : Store) (ref : InstanceRef) (now : Instant) :
    KeepsStatuses s (s.touchInstance ref now).2 := by
  unfold Store.touchInstance
  split
  · cases ref with
    | publisher id => exact { refl s with publishers := .update _ _ fun _ => rfl }
    | subscriber id => exact { refl s with subscribers := .update _ _ fun _ => rfl }
    | job id => exact { refl s with jobs := .update _ _ fun _ => rfl }
  · exact refl s

end KeepsStatuses

/-- A process that ends has no more than its own status changed. -/
theorem status?_endHostRuntime {s : Store} {subject : LogSubject} {runtime : HostRuntimeId}
    (other : subject ≠ .hostRuntime runtime) (now : Instant) :
    (s.endHostRuntime runtime now).2.status? subject = s.status? subject := by
  cases found : require s.runtimes "host runtime" runtime with
  | error e => simp [endHostRuntime, found, bind, Except.bind]
  | ok row =>
    simp only [endHostRuntime, found, bind, Except.bind, pure, Except.pure, attempt_ok]
    cases subject with
    | hostRuntime id =>
      have other : id ≠ runtime := fun same => other (same ▸ rfl)
      simp [status?, Table.get?_insert, other]
    | component ref => cases ref <;> rfl

/-- A row that is put for an instance leaves the statuses of all others. -/
theorem status?_putInstance {s : Store} {subject : LogSubject} {record : InstanceRecord}
    (other : subject ≠ .component record.ref) :
    (s.putInstance record).status? subject = s.status? subject := by
  match subject, record with
  | .component (.publisher id), .publisher row =>
    have other : id ≠ row.id := fun same => other (same ▸ rfl)
    simp [status?, putInstance, Table.get?_insert, other]
  | .component (.subscriber id), .subscriber row =>
    have other : id ≠ row.id := fun same => other (same ▸ rfl)
    simp [status?, putInstance, Table.get?_insert, other]
  | .component (.job id), .job row =>
    have other : id ≠ row.id := fun same => other (same ▸ rfl)
    simp [status?, putInstance, Table.get?_insert, other]
  | .hostRuntime _, .publisher _ | .hostRuntime _, .subscriber _ | .hostRuntime _, .job _
  | .component (.publisher _), .subscriber _ | .component (.publisher _), .job _
  | .component (.subscriber _), .publisher _ | .component (.subscriber _), .job _
  | .component (.job _), .publisher _ | .component (.job _), .subscriber _ => rfl

theorem status?_startInstance {s : Store} {subject : LogSubject} {record : InstanceRecord}
    (other : subject ≠ .component record.ref) :
    (s.startInstance record).2.status? subject = s.status? subject := by
  unfold startInstance
  split
  · rfl
  · exact status?_putInstance other

/-- A status that is set is that of its subject only. -/
theorem status?_setStatus (s : Store) (state : ComponentState) (subject other : LogSubject) :
    (s.setStatus state subject).status? other =
      if other = subject then (s.status? other).map fun _ => state else s.status? other := by
  match subject, other with
  | .hostRuntime _, .hostRuntime _ | .component (.publisher _), .component (.publisher _)
  | .component (.subscriber _), .component (.subscriber _)
  | .component (.job _), .component (.job _) =>
    simp only [status?, setStatus, Table.get?_update, LogSubject.hostRuntime.injEq,
      LogSubject.component.injEq, InstanceRef.publisher.injEq, InstanceRef.subscriber.injEq,
      InstanceRef.job.injEq, Option.map_map]
    split
    · simp only [Option.map_map]
      rfl
    · rfl
  | .hostRuntime _, .component (.publisher _) | .hostRuntime _, .component (.subscriber _)
  | .hostRuntime _, .component (.job _) | .component (.publisher _), .hostRuntime _
  | .component (.subscriber _), .hostRuntime _ | .component (.job _), .hostRuntime _
  | .component (.publisher _), .component (.subscriber _)
  | .component (.publisher _), .component (.job _)
  | .component (.subscriber _), .component (.publisher _)
  | .component (.subscriber _), .component (.job _)
  | .component (.job _), .component (.publisher _)
  | .component (.job _), .component (.subscriber _) => simp [status?, setStatus]

/-- A record that is written leaves its subject with the status that it carries, if it carries one,
and everyone else with theirs. -/
theorem status?_recorded {s : Store} {subject : LogSubject} {state : ComponentState}
    (is : s.status? subject = some state) (record : LogRecord) :
    (s.recorded record).status? subject = some ((record.statusOf subject).getD state) := by
  unfold recorded
  cases carried : record.status with
  | none => simpa [LogRecord.statusOf, carried, status?] using is
  | some next =>
    change (s.setStatus next record.subject).status? subject = _
    rw [status?_setStatus, is, LogRecord.statusOf, carried]
    by_cases same : subject = record.subject
    · simp [same]
    · simp [same, Ne.symm same]

/-- A step that does not reset a subject leaves it with its status, or with the one of the record
that it writes about it. -/
theorem status?_after {s : Store} {step : Step} {subject : LogSubject} {state : ComponentState}
    (spares : step.call.resets subject = false) (is : s.status? subject = some state) :
    (s.after step).status? subject =
      some (((step.record? s).bind (LogRecord.statusOf subject)).getD state) := by
  obtain ⟨fresh, call⟩ := step
  cases writes : call.record? with
  | some record =>
    cases call with
    | appendLog record =>
      rcases appendLog_cases s record with written | ⟨e, refused⟩
      · simpa [Step.record?, Step.answer, after, perform, written, Call.record?]
          using status?_recorded is record
      · simpa [Step.record?, Step.answer, after, perform, refused] using is
    | _ => cases writes
  | none =>
    rw [Step.record?_eq_none writes]
    cases registration : call.isRegistration with
    | true => exact (registration_leads KeepsStatuses.registrar registration s fresh).status? is
    | false =>
      have confined := perform_confined s fresh call
      cases call with
      | appendLog => cases writes
      | startUp | registerHost | startHostRuntime | registerScenario | registerMessageType
      | registerPublisher | registerSubscriber | registerJob => cases registration
      | endHostRuntime runtime now =>
        exact (status?_endHostRuntime (beq_eq_false_iff_ne.1 spares) now).trans is
      | startInstance record =>
        exact (status?_startInstance (beq_eq_false_iff_ne.1 spares)).trans is
      | touchInstance ref now => exact (KeepsStatuses.touchInstance s ref now).status? is
      | _ => exact (KeepsStatuses.of_frame confined rfl rfl rfl rfl).status? is

/-- Along steps that do not reset it a subject has the last status that is written about it. -/
theorem status?_run {s : Store} {steps : List Step} {subject : LogSubject} {state : ComponentState}
    (spared : ∀ step ∈ steps, step.call.resets subject = false)
    (is : s.status? subject = some state) :
    (s.run steps).status? subject =
      some (((s.logged steps).filterMap (LogRecord.statusOf subject)).getLast?.getD state) := by
  induction steps generalizing s state with
  | nil => exact is
  | cons step steps ih =>
    have next := status?_after (spared step List.mem_cons_self) is
    rw [run_cons, ih (fun other mem => spared other (List.mem_cons_of_mem _ mem)) next, logged,
      List.filterMap_append, List.getLast?_append]
    cases step.record? s with
    | none => simp
    | some record => cases record.statusOf subject <;> simp [*]

/-- The statuses written about a subject are those that its records carry. -/
theorem filterMap_statusOf (subject : LogSubject) (records : List LogRecord) :
    records.filterMap (LogRecord.statusOf subject) =
      (records.filter fun record => record.subject == subject).filterMap LogRecord.status := by
  rw [List.filterMap_filter]
  refine List.filterMap_congr fun record _ => ?_
  simp [LogRecord.statusOf]

/-- What is listed for a subject are the records that were written about it, each of them once. They
stand by time, and in the order of writing at one time, and whatever is done later they are listed
again. -/
theorem listLogs_run (subject : LogSubject) (steps : List Step) :
    let s := run .empty steps
    let records := (logged .empty steps).filter fun record => record.subject == subject
    (s.listLogs subject).Perm records ∧
    (s.listLogs subject).Pairwise (fun a b => a.created ≤ b.created) ∧
    (∀ time, (s.listLogs subject).filter (fun record => record.created = time) =
      records.filter fun record => record.created = time) ∧
    ∀ more, (s.listLogs subject).Sublist ((s.run more).listLogs subject) := by
  intro s records
  have trans (a b c : LogRecord) (ab : decide (a.created ≤ b.created) = true)
      (bc : decide (b.created ≤ c.created) = true) : decide (a.created ≤ c.created) = true :=
    decide_eq_true (Int.le_trans (of_decide_eq_true ab) (of_decide_eq_true bc))
  have total (a b : LogRecord) :
      (decide (a.created ≤ b.created) || decide (b.created ≤ a.created)) = true := by
    rw [Bool.or_eq_true, decide_eq_true_iff, decide_eq_true_iff]
    exact Int.le_total _ _
  have is : s.logs = logged .empty steps := logs_run .empty steps
  refine ⟨?_, ?_, fun time => ?_, fun more => ?_⟩
  · rw [listLogs, is]
    exact List.mergeSort_perm _ _
  · exact (List.pairwise_mergeSort trans total _).imp of_decide_eq_true
  · rw [listLogs, is]
    refine filter_mergeSort trans total (fun a b first second => ?_) _
    rw [of_decide_eq_true first, of_decide_eq_true second]
    exact decide_eq_true (Int.le_refl _)
  · rw [listLogs, listLogs, logs_run s, List.filter_append]
    exact sublist_mergeSort_append trans total _ _

/-- Whatever has been done to a store, a subject is listed with the records that were written about
it, by time and then in their order, and keeps them for good. Its status is the last one of these
records if nothing has reset it since one of them. Only the end of a process and the start of an
instance can do that: what else may name a subject that is there fails or leaves it its status. -/
theorem journal_settles_status (subject : LogSubject) (steps : List Step) (fresh : Fresh) :
    let s := run .empty steps
    let records := (logged .empty steps).filter fun record => record.subject == subject
    (∃ listed, (s.perform fresh (.listLogs subject)).1 = .ok listed ∧
      listed.Perm records ∧
      listed.Pairwise (fun a b => a.created ≤ b.created) ∧
      (∀ time, listed.filter (fun record => record.created = time) =
        records.filter fun record => record.created = time) ∧
      ∀ more, ∃ later, ((s.run more).perform fresh (.listLogs subject)).1 = .ok later ∧
        listed.Sublist later) ∧
    ∀ before step after record, steps = before ++ step :: after →
      step.record? (run .empty before) = some record → record.subject = subject →
      record.status.isSome →
      (∀ step ∈ after, step.call.resets subject = false) →
      (s.perform fresh (.currentState subject)).1 =
        .ok (records.filterMap LogRecord.status).getLast? := by
  intro s records
  obtain ⟨perm, sorted, stable, kept⟩ := listLogs_run subject steps
  refine ⟨⟨_, rfl, perm, sorted, stable, fun more => ⟨_, rfl, kept more⟩⟩, ?_⟩
  rintro before step after record split writes rfl carries spared
  obtain ⟨state, carried⟩ := Option.isSome_iff_exists.1 carries
  have done := Step.record?_eq_some writes
  obtain ⟨there, -, becomes⟩ := RefersIn.appendLog_eq_ok_iff.1 done
  rw [← isSome_status?] at there
  obtain ⟨former, had⟩ := Option.isSome_iff_exists.1 there
  have gets := status?_recorded had record
  have given : record.statusOf record.subject = some state := by simp [LogRecord.statusOf, carried]
  rw [given, ← becomes] at gets
  have last := status?_run spared gets
  change Except.ok (s.status? record.subject) = _
  rw [← filterMap_statusOf]
  subst split
  change Except.ok ((run .empty (before ++ step :: after)).status? record.subject) = _
  rw [run_append, run_cons, last, logged_append, logged, writes, List.filterMap_append,
    List.filterMap_append, List.getLast?_append, List.getLast?_append]
  simp [given]

/-- A record about the publisher of the store at work. -/
def publisherRecord (number : Nat) (status : Option ComponentState) : LogRecord where
  id := ⟨.ofNat number⟩
  subject := .component (.publisher ⟨.ofNat 6⟩)
  level := .information
  text := "published"
  message := none
  status := status
  correlationId := none
  created := default

/-- The last status holds although a record without one and a start that fails come after it. -/
theorem journal_settles_status_publisher :
    let audited := oneTicket ++ [⟨freshFrom 0, .appendLog (publisherRecord 20 (some .running))⟩,
      ⟨freshFrom 0, .appendLog (publisherRecord 21 none)⟩,
      ⟨freshFrom 0, .startHostRuntime
        ⟨⟨.ofNat 2⟩, ⟨.ofNat 1⟩, "user", "machine", default, none, .starting⟩⟩]
    ((run .empty audited).perform (freshFrom 0)
      (.currentState (.component (.publisher ⟨.ofNat 6⟩)))).1 = .ok (some .running) := by
  intro audited
  have settled := (journal_settles_status (.component (.publisher ⟨.ofNat 6⟩)) audited
    (freshFrom 0)).2 oneTicket ⟨freshFrom 0, .appendLog (publisherRecord 20 (some .running))⟩ _
    (publisherRecord 20 (some .running)) rfl rfl rfl rfl (by decide)
  exact settled.trans rfl

end Store
end MessageBus
