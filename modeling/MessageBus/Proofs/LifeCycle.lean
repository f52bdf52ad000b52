import MessageBus.Proofs.Handling
import MessageBus.Proofs.Journal
import MessageBus.Proofs.Rounds

/-! The life of a worker from its first record to its last one, with its rounds between them. The
rounds record no state and make no pause within a poll, and nothing depends on what becomes of the
records. -/
namespace MessageBus
open Routine

section
variable {η : Type}

/-- The log record that is to be written. -/
def Request.record? : Request η → Option LogRecord
  | .store call | .attempt call => call.record?
  | _ => none

def Request.isLog (request : Request η) : Bool := request.record?.isSome

def Request.statusRecord? (request : Request η) : Option LogRecord :=
  request.record?.filter fun record => record.status.isSome

/-- The records with a status that a routine has asked to be written. -/
def statusRecords (said : List (Exchange η)) : List LogRecord :=
  said.filterMap fun exchange => exchange.request.statusRecord?

theorem statusRecords_append (xs ys : List (Exchange η)) :
    statusRecords (xs ++ ys) = statusRecords xs ++ statusRecords ys := List.filterMap_append

/-- The length of a pause, and whether it was cut short by a cancellation. -/
def Routine.Exchange.pause? : Exchange η → Option (Duration × Bool)
  | ⟨.pause span, woken⟩ => some (span, woken)
  | _ => none

/-- What only the life of a worker asks for: records of its states, and pauses. -/
def Request.isOuter : Request η → Bool
  | .pause _ => true
  | request => request.statusRecord?.isSome

/-- Records of any kind, and pauses. -/
def Request.isLogOrPause : Request η → Bool
  | .pause _ => true
  | request => request.isLog

theorem Request.isLogOrPause_of_isLog (request : Request η) (h : request.isLog = true) :
    request.isLogOrPause = true := by
  cases request with
  | store | attempt => exact h
  | _ => cases h

theorem Request.isLogOrPause_of_isOuter (request : Request η) (h : request.isOuter = true) :
    request.isLogOrPause = true := by
  have recorded {record? : Option LogRecord}
      (some : (record?.filter fun record => record.status.isSome).isSome = true) :
      record?.isSome = true := by
    cases record? with
    | none => cases some
    | some record => rfl
  cases request with
  | pause => rfl
  | store | attempt => exact recorded h
  | _ => cases h

end

namespace Worker
variable {η : Type} {w : Worker η}

/-! What a poll does not ask for, and what it does not heed. -/

theorem seeking_avoids_logs (w : Worker η) : Avoids Request.isLogOrPause w.seeking.run :=
  avoids_seeking rfl rfl (fun _ _ => rfl) (fun _ _ _ _ => rfl) (fun _ _ _ _ => rfl)
    fun _ _ _ _ => rfl

theorem handling_avoids_logs (w : Worker η) (d : Delivery) :
    Avoids Request.isLogOrPause (w.handling d).run :=
  avoids_handling (avoids_messageTypeById rfl rfl fun _ => rfl) (fun _ => rfl) fun _ _ => rfl

/-- A record without a status is no record of a state. -/
theorem isOuter_appendLog {record : LogRecord} (h : record.status = none) :
    Request.isOuter (.store (.appendLog record) : Request η) = false := by
  simp [Request.isOuter, Request.statusRecord?, Request.record?, Store.Call.record?, h]

/-- A record may fail to be written if what follows is the same in both cases. -/
theorem heedless_log (source : Correlation) (record : LogRecord) {α : Type} {rest : Routine η α}
    (h : Heedless Request.isLog rest) :
    Heedless Request.isLog ((Audit.log source record).andThen fun _ => rest) := by
  refine ⟨nofun, fun scopes => ⟨fun _ one other => ?_, fun answer => ?_⟩⟩
  · cases one <;> cases other <;> rfl
  · cases answer <;> exact h

theorem reporting_heedless (w : Worker η) (d : Delivery) (result : HandlerResult)
    (state : TicketState) (committed : CommitOutcome) :
    Heedless Request.isLog (w.reporting d result state committed).run := by
  unfold reporting
  split
  · rw [run_lift_bind]
    refine ⟨nofun, fun id => ⟨nofun, fun now => ?_⟩⟩
    exact heedless_log w.correlation _ trivial
  · exact trivial

theorem runOnce_avoids_outer (w : Worker η) : Avoids Request.isOuter w.runOnce.run := by
  have finishes (outcome : PollOutcome) :
      Avoids Request.isOuter (finishing outcome : StoreRoutine η PollOutcome).run :=
    avoids_finishing rfl
  rw [runOnce_eq]
  refine .bind (w.seeking_avoids_logs.mono Request.isLogOrPause_of_isOuter) fun claim => ?_
  cases claim with
  | empty => exact finishes .empty
  | lost ticket => exact finishes (.lost ticket)
  | claimed d =>
    refine .bind ?_ finishes
    rw [process_eq]
    refine .bind ((w.handling_avoids_logs d).mono Request.isLogOrPause_of_isOuter) fun handled => ?_
    refine .bind (.lift (.ask rfl)) fun _ => .bind (.lift (.ask rfl)) fun made => ?_
    refine .bind (.lift (.ask rfl)) fun now => .bind (.ask rfl) fun committed => ?_
    exact avoids_reporting rfl rfl rfl fun _ => isOuter_appendLog

/-- A poll takes no notice of what becomes of its records. -/
theorem runOnce_heedless (w : Worker η) : Heedless Request.isLog w.runOnce.run := by
  have lifted {α : Type} {request : Request η} (other : request.isLog = false)
      {f : request.Answer → StoreRoutine η α}
      (h : ∀ answer, Heedless Request.isLog (f answer).run) :
      Heedless Request.isLog (ExceptT.lift (ask request) >>= f).run :=
    .bind (.of_avoids (.lift (.ask other))) h
  have finishes (outcome : PollOutcome) :
      Heedless Request.isLog (finishing outcome : StoreRoutine η PollOutcome).run :=
    lifted rfl fun _ => trivial
  rw [runOnce_eq]
  have seeks := w.seeking_avoids_logs.mono Request.isLogOrPause_of_isLog
  refine .bind (.of_avoids seeks) fun claim => ?_
  cases claim with
  | empty => exact finishes .empty
  | lost ticket => exact finishes (.lost ticket)
  | claimed d =>
    refine .bind ?_ finishes
    rw [process_eq]
    refine .bind (.of_avoids ((w.handling_avoids_logs d).mono Request.isLogOrPause_of_isLog))
      fun handled => ?_
    refine lifted rfl fun _ => lifted rfl fun made => lifted rfl fun now => ?_
    exact .bind (.of_avoids (.ask rfl)) fun committed => w.reporting_heedless d _ _ committed

/-! What is asked in the course of a life. -/

theorem quiet_of_avoids {α : Type} {routine : Routine η α} (h : Avoids Request.isOuter routine)
    {said : List (Exchange η)} {a : α} (ends : Ends routine said a) :
    statusRecords said = [] ∧ said.filterMap Exchange.pause? = [] := by
  have outside := h.not_asked ends
  refine ⟨List.filterMap_eq_nil_iff.2 fun exchange mem => ?_,
    List.filterMap_eq_nil_iff.2 fun exchange mem => ?_⟩
  · obtain ⟨request, answer⟩ := exchange
    have other := outside _ mem
    cases request with
    | pause => cases other
    | _ => exact Option.isNone_iff_eq_none.1 (Option.isSome_eq_false_iff.1 other)
  · obtain ⟨request, answer⟩ := exchange
    cases request with
    | pause => cases outside _ mem
    | _ => rfl

theorem Course.quiet {limit : Nat} {rounds : List Round} {seen : Bool}
    {result : Option (Except StoreError Unit)} {said : List (Exchange η)}
    (h : Course w limit rounds seen result said) : statusRecords said = [] := by
  have round {answer : Except StoreError PollOutcome} {said : List (Exchange η)}
      (polls : Ends w.runOnce.run said answer) (later : List (Exchange η)) :
      statusRecords (said ++ later) = statusRecords later := by
    rw [statusRecords_append, (quiet_of_avoids w.runOnce_avoids_outer polls).1, List.nil_append]
  induction h with
  | exhausted | cancelled => rfl
  | polled polls next rest ih | paused polls next rest ih => exact (round polls _).trans ih
  | woken polls next => exact round polls _
  | stopped polls next => exact (quiet_of_avoids w.runOnce_avoids_outer polls).1

/-- The pauses that are made are those of the rounds. -/
theorem Course.pauses {limit : Nat} {rounds : List Round} {seen : Bool}
    {result : Option (Except StoreError Unit)} {said : List (Exchange η)}
    (h : Course w limit rounds seen result said) :
    said.filterMap Exchange.pause? = rounds.filterMap Round.pause? := by
  have round {answer : Except StoreError PollOutcome} {said : List (Exchange η)}
      (polls : Ends w.runOnce.run said answer) (later : List (Exchange η)) :
      (said ++ later).filterMap Exchange.pause? = later.filterMap Exchange.pause? := by
    rw [List.filterMap_append, (quiet_of_avoids w.runOnce_avoids_outer polls).2, List.nil_append]
  induction h with
  | exhausted | cancelled => rfl
  | polled polls next rest ih => exact (round polls _).trans ih
  | paused polls next rest ih => exact (round polls _).trans (congrArg (_ :: ·) ih)
  | woken polls next => exact round polls _
  | stopped polls next => exact (quiet_of_avoids w.runOnce_avoids_outer polls).2

/-- What becomes of the records has no influence on the course. -/
theorem Course.alike {limit : Nat} {rounds : List Round} {seen : Bool}
    {result : Option (Except StoreError Unit)} {said others : List (Exchange η)}
    (h : Course w limit rounds seen result said)
    (alike : List.Forall₂ (Exchange.Alike Request.isLog) said others) :
    Course w limit rounds seen result others := by
  have polled {answer : Except StoreError PollOutcome} {said others : List (Exchange η)}
      (polls : Ends w.runOnce.run said answer)
      (alike : List.Forall₂ (Exchange.Alike Request.isLog) said others) :
      Ends w.runOnce.run others answer := w.runOnce_heedless.ends polls alike
  induction h generalizing others with
  | exhausted =>
    cases alike
    exact .exhausted
  | cancelled =>
    cases alike with
    | cons first rest =>
      cases first.eq rfl
      cases rest
      exact .cancelled
  | polled polls next rest ih =>
    cases alike with
    | cons first alike =>
      cases first.eq rfl
      obtain ⟨_, _, rfl, here, later⟩ := forall₂_append_split alike
      exact .polled (polled polls here) next (ih later)
  | paused polls next rest ih =>
    cases alike with
    | cons first alike =>
      cases first.eq rfl
      obtain ⟨_, _, rfl, here, pause⟩ := forall₂_append_split alike
      cases pause with
      | cons second later =>
        cases second.eq rfl
        exact .paused (polled polls here) next (ih later)
  | woken polls next =>
    cases alike with
    | cons first alike =>
      cases first.eq rfl
      obtain ⟨_, _, rfl, here, pause⟩ := forall₂_append_split alike
      cases pause with
      | cons second none =>
        cases second.eq rfl
        cases none
        exact .woken (polled polls here) next
  | stopped polls next =>
    cases alike with
    | cons first alike =>
      cases first.eq rfl
      exact .stopped (polled polls alike) next

/-! The first and the last record. -/

/-- These states of the worker, with these texts, are recorded and no others. -/
def Announces (w : Worker η) (states : List (ComponentState × String)) (said : List (Exchange η)) :
    Prop :=
  (statusRecords said).map (fun record => (record.subject, record.status, record.text)) =
    states.map fun (state, text) => (.component w.consumer.ref, some state, text)

/-- What a worker records about its end. -/
def lastWords : Option (Except StoreError Unit) → List (ComponentState × String)
  | some (.ok ()) => [(.stopped, "consumer stopped")]
  | some (.error e) => [(.faulted, e.message)]
  | none => []

/-- The last record of a worker, if it has come to its end. -/
def parting (w : Worker η) : Option (Except StoreError Unit) → Routine η Unit
  | some (.ok ()) => w.report .stopped "consumer stopped"
  | some (.error e) => w.report .faulted e.message
  | none => pure ()

theorem run_eq (w : Worker η) (limit : Nat) : w.run limit = do
    w.report .running "consumer started"
    let result ← w.pollUntilStopped limit
    w.parting result
    return result := by
  refine bind_congr fun _ => bind_congr fun result => ?_
  match result with
  | some (.ok ()) | some (.error _) | none => rfl

theorem report_announces {state : ComponentState} {text : String} {said : List (Exchange η)}
    {u : Unit} (ends : Ends (w.report state text) said u) :
    Announces w [(state, text)] said ∧ said.filterMap Exchange.pause? = [] := by
  simp only [report, Audit.status, Audit.record, Audit.log, bind_assoc, pure_bind] at ends
  obtain ⟨id, _, rfl, named⟩ := ends_ask_bind_iff.1 ends
  obtain ⟨now, _, rfl, timed⟩ := ends_ask_bind_iff.1 named
  obtain ⟨scopes, _, rfl, placed⟩ := ends_ask_bind_iff.1 timed
  obtain ⟨written, rest, rfl, done⟩ := ends_ask_bind_iff.1 placed
  have silent : rest = [] := by
    cases written with
    | ok | error => exact (ends_pure_iff.1 done).1
  subst silent
  exact ⟨rfl, rfl⟩

theorem parting_announces {result : Option (Except StoreError Unit)} {said : List (Exchange η)}
    {u : Unit} (ends : Ends (w.parting result) said u) :
    Announces w (lastWords result) said ∧ said.filterMap Exchange.pause? = [] := by
  match result with
  | some (.ok ()) => exact report_announces ends
  | some (.error e) => exact report_announces ends
  | none =>
    obtain ⟨rfl, -⟩ := ends_pure_iff.1 ends
    exact ⟨rfl, rfl⟩

theorem report_heedless (w : Worker η) (state : ComponentState) (text : String) :
    Heedless Request.isLog (w.report state text) := by
  have rest : Heedless Request.isLog (pure () : Routine η Unit) := trivial
  simp only [report, Audit.status, Audit.record, bind_assoc, pure_bind]
  exact ⟨nofun, fun id => ⟨nofun, fun now => heedless_log w.correlation _ rest⟩⟩

theorem parting_heedless (w : Worker η) (result : Option (Except StoreError Unit)) :
    Heedless Request.isLog (w.parting result) := by
  match result with
  | some (.ok ()) => exact w.report_heedless .stopped _
  | some (.error e) => exact w.report_heedless .faulted _
  | none => exact trivial

/-- A life is a first record, a loop, and a last record. -/
theorem ends_run_iff {limit : Nat} {said : List (Exchange η)}
    {result : Option (Except StoreError Unit)} :
    Ends (w.run limit) said result ↔
      ∃ opening polling closing rounds seen, said = opening ++ (polling ++ closing) ∧
        Ends (w.report .running "consumer started") opening () ∧
        Course w limit rounds seen result polling ∧ Ends (w.parting result) closing () := by
  rw [run_eq]
  constructor
  · intro ends
    obtain ⟨_, opening, _, rfl, opens, goesOn⟩ := ends_bind_iff.1 ends
    obtain ⟨last, polling, _, rfl, loops, follows⟩ := ends_bind_iff.1 goesOn
    obtain ⟨_, closing, _, rfl, closes, done⟩ := ends_bind_iff.1 follows
    obtain ⟨rfl, rfl⟩ := ends_pure_iff.1 done
    obtain ⟨rounds, seen, course⟩ := ends_pollUntilStopped_iff.1 loops
    rw [List.append_nil]
    exact ⟨opening, polling, closing, rounds, seen, rfl, opens, course, closes⟩
  · rintro ⟨opening, polling, closing, rounds, seen, rfl, opens, course, closes⟩
    refine ends_bind_iff.2 ⟨_, _, _, rfl, opens, ?_⟩
    refine ends_bind_iff.2 ⟨_, _, _, rfl, ends_pollUntilStopped_iff.2 ⟨_, _, course⟩, ?_⟩
    exact ends_bind_iff.2 ⟨_, _, _, (List.append_nil _).symm, closes, ends_pure_iff.2 ⟨rfl, rfl⟩⟩

/-- What there is to say of the life of a worker: of its rounds, of whether it saw a cancellation
before a poll, of its result, and of all that it asked for. -/
structure LifeCycle (w : Worker η) (limit : Nat) (rounds : List Round) (seen : Bool)
    (result : Option (Except StoreError Unit)) (said : List (Exchange η)) : Prop where
  ends : Ends (w.run limit) said result
  /-- The loop lies between the record of the start and that of the end. -/
  course : ∃ opening polling closing, said = opening ++ (polling ++ closing) ∧
    Announces w [(.running, "consumer started")] opening ∧
    Course w limit rounds seen result polling ∧ Announces w (lastWords result) closing
  /-- Apart from these two no state is recorded. -/
  states : Announces w ((.running, "consumer started") :: lastWords result) said
  /-- An error is returned exactly if a poll has failed with it and it is fatal. -/
  faulted : ∀ e, result = some (.error e) ↔ e.Fatal ∧ ∃ round ∈ rounds, round.result = .error e
  /-- Nothing comes after a poll that failed with a fatal error. -/
  last : ∀ before round after e, rounds = before ++ round :: after → round.result = .error e →
    e.Fatal → after = [] ∧ seen = false
  stopped : result = some (.ok ()) ↔ seen = true ∨
    ∃ round ∈ rounds, round.result = .error .cancelled ∨ ∃ span, round.pause? = some (span, true)
  /-- After each other round a poll follows, unless a cancellation is seen before it, or the limit
  is reached. -/
  keepsOn : ∀ before round after, rounds = before ++ round :: after →
    (∀ e, round.result = .error e → ¬ e.Fatal ∧ e ≠ .cancelled) →
    (∀ span, round.pause? ≠ some (span, true)) → after ≠ [] ∨ seen = true ∨ result = none
  unfinished : result = none → rounds.length = limit
  pauses : said.filterMap Exchange.pause? = rounds.filterMap Round.pause?
  /-- The pause depends on the poll before it. -/
  spans : ∀ round ∈ rounds, round.pause?.map Prod.fst = w.pauseAfter round.result

theorem lifeCycle_of_parts {limit : Nat} {rounds : List Round} {seen : Bool}
    {result : Option (Except StoreError Unit)} {opening polling closing : List (Exchange η)}
    (opens : Ends (w.report .running "consumer started") opening ())
    (course : Course w limit rounds seen result polling)
    (closes : Ends (w.parting result) closing ()) :
    LifeCycle w limit rounds seen result (opening ++ (polling ++ closing)) := by
  obtain ⟨opened, awake⟩ := report_announces opens
  obtain ⟨closed, still⟩ := parting_announces closes
  have settled := course.settled
  exact {
    ends := ends_run_iff.2 ⟨opening, polling, closing, rounds, seen, rfl, opens, course, closes⟩
    course := ⟨opening, polling, closing, rfl, opened, course, closed⟩
    states := by
      rw [Announces, statusRecords_append, statusRecords_append, course.quiet, List.nil_append,
        List.map_append, opened, closed, ← List.map_append]
      rfl
    faulted := settled.faulted_iff
    last := fun before round after e split failed fatal => by
      rcases settled.goes_or_stops split with goes | ⟨last, before, -⟩
      · exact absurd fatal (goes.curable failed).1
      · exact ⟨last, before⟩
    stopped := settled.stopped_iff
    keepsOn := fun before round after => settled.keepsOn
    unfinished := fun none => by
      subst none
      cases settled with
      | exhausted goes all => exact all
    pauses := by
      rw [List.filterMap_append, List.filterMap_append, awake, still, List.nil_append,
        List.append_nil, course.pauses]
    spans := settled.spans }

/-- A worker that comes to its end has recorded that it was running and then how it ended, and comes
to it by the outcomes of its polls and the cancellations that it saw, as `LifeCycle` says. Whether
its records are written or not makes no difference to its rounds, and no larger limit does. -/
theorem run_lifeCycle {limit : Nat} {said : List (Exchange η)}
    {result : Option (Except StoreError Unit)} (ends : Ends (w.run limit) said result) :
    ∃ rounds seen, LifeCycle w limit rounds seen result said ∧
      (∀ others, List.Forall₂ (Exchange.Alike Request.isLog) said others →
        LifeCycle w limit rounds seen result others) ∧
      ∀ more, result ≠ none → LifeCycle w (limit + more) rounds seen result said := by
  obtain ⟨opening, polling, closing, rounds, seen, rfl, opens, course, closes⟩ :=
    ends_run_iff.1 ends
  refine ⟨rounds, seen, lifeCycle_of_parts opens course closes, fun others alike => ?_,
    fun more some => ?_⟩
  · obtain ⟨_, _, rfl, first, rest⟩ := forall₂_append_split alike
    obtain ⟨_, _, rfl, second, third⟩ := forall₂_append_split rest
    exact lifeCycle_of_parts ((w.report_heedless .running _).ends opens first) (course.alike second)
      ((w.parting_heedless result).ends closes third)
  · cases result with
    | none => exact absurd rfl some
    | some result => exact lifeCycle_of_parts opens (course.more more) closes

/-! A clerk whose instance is not there: its first poll fails for good, and so do its records. -/

def clerkFault : StoreError := .integrity "touch_instance" 1 0

def clerkLife : List (Exchange Unit) :=
  let announcement (state : ComponentState) (text : String) : LogRecord :=
    ⟨⟨.ofNat 20⟩, .component Store.runner.ref, .forStatus state, text, none, some state, none,
      default⟩
  [⟨.freshLog, ⟨.ofNat 20⟩⟩, ⟨.now, default⟩, ⟨.correlationScopes, []⟩,
    ⟨.store (.appendLog (announcement .running "consumer started")), .error clerkFault⟩,
    ⟨.isCancelled, false⟩, ⟨.now, default⟩, ⟨.isCancelled, false⟩,
    ⟨.attempt (.touchInstance Store.runner.ref default), .error clerkFault⟩,
    ⟨.freshLog, ⟨.ofNat 20⟩⟩, ⟨.now, default⟩, ⟨.correlationScopes, []⟩,
    ⟨.store (.appendLog (announcement .faulted clerkFault.message)), .error clerkFault⟩]

theorem ends_clerk : Ends (Store.clerk.run 3) clerkLife (some (.error clerkFault)) := by
  refine .asked (.asked (.asked (.asked ?_)))
  refine .asked (.asked (.asked (.asked ?_)))
  exact .asked (.asked (.asked (.asked .done)))

/-- Its last poll is the one that failed, and with a larger limit it would not have gone on. -/
theorem run_lifeCycle_clerk : ∃ rounds seen,
    LifeCycle Store.clerk 4 rounds seen (some (.error clerkFault)) clerkLife ∧
    ∃ round ∈ rounds, round.result = .error clerkFault := by
  obtain ⟨rounds, seen, life, -, longer⟩ := run_lifeCycle ends_clerk
  exact ⟨rounds, seen, longer 1 nofun, ((life.faulted clerkFault).1 rfl).2⟩

end Worker
end MessageBus
