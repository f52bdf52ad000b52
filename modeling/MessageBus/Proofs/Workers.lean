import MessageBus.Proofs.Finality
import MessageBus.Proofs.Selection
import MessageBus.Worker.Poll

/-! Runs that any number of workers take part in. A poll of a worker looks for a ticket, has it
handled, and concludes with a commit; each part may wait for as long as it likes, and may never end.
Whatever a poll commits goes to the ticket that it claimed, under the token of that claim, and is
computed from the copy that the claim handed out. As long as that token counts, the copy is good. -/
namespace MessageBus

def Request.isCommit {η : Type} : Request η → Bool
  | .store call | .attempt call => call.isCommit
  | _ => false

/-- A request to write messages or tickets. -/
def Request.isDelivery {η : Type} : Request η → Bool
  | .store call | .attempt call => call.isDelivery
  | _ => false

/-- A request to write messages or tickets, or to count a poll. -/
def Request.isBooking {η : Type} : Request η → Bool
  | .store call | .attempt call => call.isDelivery
  | .tally _ => true
  | _ => false

theorem Request.isBooking_of_isDelivery {η : Type} (request : Request η)
    (h : request.isDelivery = true) : request.isBooking = true := by
  cases request with
  | store | attempt => exact h
  | _ => cases h

theorem Request.isDelivery_of_isCommit {η : Type} (request : Request η)
    (h : request.isCommit = true) : request.isDelivery = true := by
  cases request with
  | store call | attempt call =>
    cases call with
    | commit => rfl
    | _ => cases h
  | _ => cases h

namespace Worker
open Store Routine
variable {η : Type} (w : Worker η)

/-! The parts of a poll. -/

/-- Up to the claim. -/
def seeking : StoreRoutine η ClaimOutcome := do
  let now ← ExceptT.lift (ask .now)
  unlessCancelled (Routine.attempt (.touchInstance w.consumer.ref now))
  unlessCancelled (claimNext w.consumer w.policy w.config.eligible now)

/-- From the claim to the result, with the number of the signs of life. -/
def handling (d : Delivery) : StoreRoutine η (Nat × HandlerResult) := do
  let messageType ← messageTypeById d.message.messageType
  let pulse ← ExceptT.lift (ask (.startPulse
    ⟨w.consumer, d.ticket.id, d.ticket.token, w.config.heartbeatInterval⟩))
  let result ← ExceptT.lift (w.dispatch (.ofClaim d messageType.name))
  return (pulse, result)

/-- What comes after the commit. -/
def reporting (d : Delivery) (result : HandlerResult) (state : TicketState)
    (committed : CommitOutcome) : StoreRoutine η PollOutcome := do
  if let some reason := result.outcome.reason? then
    let _ ← ExceptT.lift (Audit.messageEvent w.correlation w.consumer.ref d.message.id
      (failureLevel state) reason)
  return .processed d.ticket.id state committed.isCommitted

/-- From the result on. -/
def concluding (d : Delivery) (pulse : Nat) (result : HandlerResult) :
    StoreRoutine η PollOutcome := do
  ExceptT.lift (ask (.stopPulse pulse))
  let update := w.update d.ticket result (← ExceptT.lift (ask .now))
  let now ← ExceptT.lift (ask .now)
  let committed ← Routine.call (.commit w.consumer d.ticket.id d.ticket.token update now)
  w.reporting d result update.state committed

def finishing (outcome : PollOutcome) : StoreRoutine η PollOutcome := do
  ExceptT.lift (ask (.tally outcome))
  return outcome

theorem process_eq (d : Delivery) :
    w.process d = w.handling d >>= fun handled => w.concluding d handled.1 handled.2 := by
  simp only [process, handling, bind_assoc, pure_bind]
  rfl

theorem runOnce_eq : w.runOnce = w.seeking >>= fun
    | .claimed d => w.process d >>= finishing
    | .empty => finishing .empty
    | .lost ticket => finishing (.lost ticket) := by
  simp only [runOnce, seeking, bind_assoc]
  refine bind_congr fun now => bind_congr fun _ => bind_congr fun claim => ?_
  cases claim with
  | claimed d => rfl
  | empty => simp [finishing]
  | lost ticket => simp [finishing]

/-! Each part of a poll avoids a kind of requests if none of its own are of the kind. -/

section
variable {w} {kind : Request η → Bool}

theorem avoids_unlessCancelled {α : Type} {body : StoreRoutine η α}
    (poll : kind .isCancelled = false) (h : Avoids kind body.run) :
    Avoids kind (unlessCancelled body).run := by
  refine .bind (.lift (.ask poll)) fun cancelled => ?_
  cases cancelled with
  | true => exact trivial
  | false => exact h

theorem avoids_selection {policy : DeliveryPolicy} {queue : QueueRef} {eligible : List TicketState}
    {timeout : Duration} {now : Instant}
    (fifo : kind (.attempt (.findNextFifo queue eligible timeout now)) = false)
    (other : kind (.attempt (.findNextNonFifo queue eligible timeout now)) = false) :
    Avoids kind
      (if policy.fifo then ask (.attempt (.findNextFifo queue eligible timeout now))
        else ask (.attempt (.findNextNonFifo queue eligible timeout now))) := by
  split
  · exact .ask fifo
  · exact .ask other

theorem avoids_seeking (timed : kind .now = false) (polls : kind .isCancelled = false)
    (touches : ∀ ref now, kind (.attempt (.touchInstance ref now)) = false)
    (fifo : ∀ queue eligible timeout now,
      kind (.attempt (.findNextFifo queue eligible timeout now)) = false)
    (other : ∀ queue eligible timeout now,
      kind (.attempt (.findNextNonFifo queue eligible timeout now)) = false)
    (claims : ∀ candidate consumer timeout now,
      kind (.attempt (.tryClaim candidate consumer timeout now)) = false) :
    Avoids kind w.seeking.run := by
  refine .bind (.lift (.ask timed)) fun now => ?_
  refine .bind (avoids_unlessCancelled polls (.ask (touches _ now))) fun _ =>
    avoids_unlessCancelled polls ?_
  rw [claimNext_run]
  refine .andThen (avoids_selection (fifo _ _ _ now) (other _ _ _ now)) fun found => ?_
  cases found with
  | error e => exact trivial
  | ok found =>
    cases found with
    | none => exact trivial
    | some candidate => exact .ask (claims candidate _ _ now)

theorem avoids_messageTypeById {id : MessageTypeId} (cached : kind (.cachedById id) = false)
    (loads : kind (.store (.messageTypeById id)) = false)
    (remembers : ∀ row, kind (.remember row) = false) :
    Avoids kind (messageTypeById id : StoreRoutine η MessageType).run := by
  refine .bind (.lift (.ask cached)) fun hit => ?_
  cases hit with
  | some row => exact trivial
  | none =>
    refine .bind (.ask loads) fun found => ?_
    cases found with
    | none => exact trivial
    | some row => exact .bind (.lift (.ask (remembers row))) fun _ => trivial

theorem avoids_handling {d : Delivery}
    (types : Avoids kind
      (messageTypeById d.message.messageType : StoreRoutine η MessageType).run)
    (starts : ∀ pulse, kind (.startPulse pulse) = false)
    (handles : ∀ handler envelope, kind (.handle handler envelope) = false) :
    Avoids kind (w.handling d).run := by
  refine .bind types fun messageType => .bind (.lift (.ask (starts _))) fun pulse => ?_
  refine .bind (.lift ?_) fun result => trivial
  unfold dispatch
  split
  · exact trivial
  · refine .andThen (.ask (handles _ _)) fun answer => ?_
    cases answer with
    | ok result => exact trivial
    | error panic => exact trivial

/-- The record of a failure carries no status. -/
theorem avoids_reporting {d : Delivery} {result : HandlerResult} {state : TicketState}
    {committed : CommitOutcome} (created : kind .freshLog = false) (timed : kind .now = false)
    (traced : kind .correlationScopes = false)
    (writes : ∀ record, record.status = none → kind (.store (.appendLog record)) = false) :
    Avoids kind (w.reporting d result state committed).run := by
  unfold reporting
  split
  · refine .bind (.lift ?_) fun _ => trivial
    refine ⟨created, fun id => ⟨timed, fun now => ⟨traced, fun scopes => ⟨writes _ rfl, ?_⟩⟩⟩⟩
    intro answer
    cases answer with
    | ok _ => exact trivial
    | error e => exact trivial
  · exact trivial

theorem avoids_finishing {outcome : PollOutcome} (counts : kind (.tally outcome) = false) :
    Avoids kind (finishing outcome : StoreRoutine η PollOutcome).run :=
  .bind (.lift (.ask counts)) fun _ => trivial

end

/-! Where a poll commits, and where it writes to tickets at all. -/

theorem handling_avoids_booking (d : Delivery) : Avoids Request.isBooking (w.handling d).run :=
  avoids_handling (avoids_messageTypeById rfl rfl fun _ => rfl) (fun _ => rfl) fun _ _ => rfl

theorem handling_avoids (d : Delivery) : Avoids Request.isDelivery (w.handling d).run :=
  (w.handling_avoids_booking d).mono Request.isBooking_of_isDelivery

theorem reporting_avoids_booking (d : Delivery) (result : HandlerResult) (state : TicketState)
    (committed : CommitOutcome) :
    Avoids Request.isBooking (w.reporting d result state committed).run :=
  avoids_reporting rfl rfl rfl fun _ _ => rfl

theorem reporting_avoids (d : Delivery) (result : HandlerResult) (state : TicketState)
    (committed : CommitOutcome) :
    Avoids Request.isDelivery (w.reporting d result state committed).run :=
  (w.reporting_avoids_booking d result state committed).mono Request.isBooking_of_isDelivery

theorem finishing_avoids (outcome : PollOutcome) :
    Avoids Request.isDelivery (finishing outcome : StoreRoutine η PollOutcome).run :=
  avoids_finishing rfl

/-- A poll has claimed the delivery and had it handled with the result, and makes the call while it
concludes. -/
def Concludes (before : List Step) (d : Delivery) (result : HandlerResult) (call : Store.Call) :
    Prop :=
  ∃ past first second third pulse,
    before = past ++ (first ++ (second ++ third)) ∧
    Runs w.seeking.run (run .empty past) first (.ok (.claimed d)) ∧
    Runs (w.handling d).run (run .empty (past ++ first)) second (.ok (pulse, result)) ∧
    Asks (.store call) (w.concluding d pulse result).run (run .empty (past ++ first ++ second)) third

/-- Every commit that a poll makes is made so. -/
theorem concludes_of_asks {past during : List Step} {call : Store.Call}
    (commit : call.isCommit = true) (h : Asks (.store call) w.runOnce.run (run .empty past) during) :
    ∃ d result, w.Concludes (past ++ during) d result call := by
  have kind : (Request.store call : Request η).isCommit = true := commit
  have writes := Request.isDelivery_of_isCommit _ kind
  rw [runOnce_eq] at h
  rcases h.split with early | ⟨claim, first, rest, rfl, seeks, h⟩
  · have seeks : Avoids Request.isCommit w.seeking.run :=
      avoids_seeking rfl rfl (fun _ _ => rfl) (fun _ _ _ _ => rfl) (fun _ _ _ _ => rfl)
        fun _ _ _ _ => rfl
    exact absurd seeks (early.not_avoids kind)
  cases claim with
  | error e => exact absurd trivial (h.not_avoids kind)
  | ok claim =>
    cases claim with
    | empty => exact absurd (finishing_avoids _) (h.not_avoids writes)
    | lost ticket => exact absurd (finishing_avoids _) (h.not_avoids writes)
    | claimed d =>
      rcases h.split with h | ⟨outcome, _, _, -, -, late⟩
      · rw [process_eq] at h
        rcases h.split with early | ⟨handled, second, third, rfl, handles, h⟩
        · exact absurd (w.handling_avoids d) (early.not_avoids writes)
        cases handled with
        | error e => exact absurd trivial (h.not_avoids kind)
        | ok handled =>
          obtain ⟨pulse, result⟩ := handled
          refine ⟨d, result, past, first, second, third, pulse, rfl, seeks, ?_, ?_⟩
          · rwa [run_append]
          · rwa [run_append, run_append]
      · cases outcome with
        | error e => exact absurd trivial (late.not_avoids kind)
        | ok outcome => exact absurd (finishing_avoids _) (late.not_avoids writes)

section
variable {w}

theorem commit_of_concluding {d : Delivery} {pulse : Nat} {result : HandlerResult} {s : Store}
    {steps : List Step} {call : Store.Call} (commit : call.isCommit = true)
    (h : Asks (.store call) (w.concluding d pulse result).run s steps) :
    ∃ made now, call =
      .commit w.consumer d.ticket.id d.ticket.token (w.update d.ticket result made) now := by
  rcases h.ask_split with same | ⟨_, _, _, h⟩
  · cases same
  rcases h.ask_split with same | ⟨made, _, _, h⟩
  · cases same
  rcases h.ask_split with same | ⟨now, _, _, h⟩
  · cases same
  rcases h.ask_split with same | ⟨answer, _, _, h⟩
  · cases same
    exact ⟨made, now, rfl⟩
  · have kind : (Request.store call : Request η).isCommit = true := commit
    refine absurd ?_ (h.not_avoids (Request.isDelivery_of_isCommit _ kind))
    cases answer with
    | error e => exact trivial
    | ok committed => exact w.reporting_avoids d result _ committed

/-- What is committed is computed from the copy that a claim of the poll handed out. -/
theorem Concludes.commit {before : List Step} {d : Delivery} {result : HandlerResult}
    {call : Store.Call} (h : w.Concludes before d result call) (commit : call.isCommit = true) :
    ∃ made now, call =
      .commit w.consumer d.ticket.id d.ticket.token (w.update d.ticket result made) now := by
  obtain ⟨_, _, _, _, _, -, -, -, asks⟩ := h
  exact commit_of_concluding commit asks

theorem runs_unlessCancelled {α : Type} {body : StoreRoutine η α} {s : Store} {steps : List Step}
    {a : α} (h : Runs (unlessCancelled body).run s steps (.ok a)) :
    ∃ first rest, steps = first ++ rest ∧ Runs body.run (s.run first) rest (.ok a) := by
  obtain ⟨cancelled, first, rest, rfl, polls, h⟩ := h.split
  cases cancelled with
  | error e => cases h.done_eq
  | ok cancelled =>
    cases cancelled with
    | true => cases h.done_eq
    | false => exact ⟨first, rest, rfl, h⟩

/-- A poll that finds a delivery has claimed it. -/
theorem claimedAfter_of_seeking {past during : List Step} {d : Delivery}
    (h : Runs w.seeking.run (run .empty past) during (.ok (.claimed d))) :
    ∃ before now, ClaimedAfter (past ++ during) before now d := by
  obtain ⟨now, first, _, rfl, -, polls⟩ := h.split
  cases now with
  | error e => cases polls.done_eq
  | ok now =>
    obtain ⟨touched, second, _, rfl, -, goesOn⟩ := polls.split
    cases touched with
    | error e => cases goesOn.done_eq
    | ok _ =>
      obtain ⟨third, _, rfl, claims⟩ := runs_unlessCancelled goesOn
      obtain ⟨before, selects, between, fresh, candidate, after, rfl, -, answered⟩ :=
        claimNext_split claims
      refine ⟨past ++ (first ++ (second ++ (third ++ (before ++
        ⟨selects, selection w.consumer w.policy w.config.eligible now⟩ :: between)))), now, fresh,
        candidate, w.consumer, w.policy.processingTimeout, after, by simp, ?_⟩
      simpa only [run_append] using answered

theorem Concludes.claimedAfter {before : List Step} {d : Delivery} {result : HandlerResult}
    {call : Store.Call} (h : w.Concludes before d result call) :
    ∃ earlier now, ClaimedAfter before earlier now d := by
  obtain ⟨past, first, second, third, _, rfl, seeks, -, -⟩ := h
  obtain ⟨earlier, now, claimed⟩ := claimedAfter_of_seeking seeks
  rw [← List.append_assoc]
  exact ⟨earlier, now, claimed.append _⟩

end

end Worker

/-! Histories: runs in which it is known what was committed. -/

namespace Store

/-- A call, and if it is the commit of a poll the result that is committed. -/
structure Event where
  step : Step
  result : Option HandlerResult

/-- The store after the calls of a history. -/
def afterEvents (events : List Event) : Store := run .empty (events.map Event.step)

@[simp] theorem afterEvents_concat (events : List Event) (event : Event) :
    afterEvents (events ++ [event]) = (afterEvents events).after event.step := by
  simp [afterEvents]

/-- Results are written by workers only: every commit is one with which a poll of a worker
concludes. All other calls may come from anyone. -/
def WrittenByWorkers {ι η : Type} (workers : ι → Worker η) (events : List Event) : Prop :=
  ∀ before event later, events = before ++ event :: later → event.step.call.isCommit = true →
    ∃ i d result, event.result = some result ∧
      (workers i).Concludes (before.map Event.step) d result event.step.call

section
variable {ι η : Type} {workers : ι → Worker η}

theorem WrittenByWorkers.of_append {events more : List Event}
    (h : WrittenByWorkers workers (events ++ more)) : WrittenByWorkers workers events := by
  rintro before event later rfl
  exact h before event (later ++ more) (by simp)

/-- Where nothing is written there is nobody to have written it. -/
theorem WrittenByWorkers.of_quiet {events : List Event}
    (quiet : ∀ event ∈ events, event.step.call.isCommit = false) :
    WrittenByWorkers workers events := by
  rintro before event later rfl commit
  have silent := quiet event (List.mem_append_right _ List.mem_cons_self)
  exact absurd (silent.symm.trans commit) Bool.false_ne_true

theorem WrittenByWorkers.concat {events : List Event} {event : Event}
    (h : WrittenByWorkers workers events)
    (last : event.step.call.isCommit = true → ∃ i d result, event.result = some result ∧
      (workers i).Concludes (events.map Event.step) d result event.step.call) :
    WrittenByWorkers workers (events ++ [event]) := by
  intro before other later split commit
  rcases split_append split with ⟨rest, rfl⟩ | ⟨middle, rfl, tail⟩
  · exact h before other rest rfl commit
  · cases middle with
    | nil =>
      cases tail
      rw [List.append_nil]
      exact last commit
    | cons first middle => simp at tail

/-- Every run in which the commits are made by polls of the workers has such a history. -/
theorem exists_history (steps : List Step)
    (h : ∀ before step later, steps = before ++ step :: later → step.call.isCommit = true →
      ∃ i past during, before = past ++ during ∧
        Routine.Asks (.store step.call) (workers i).runOnce.run (run .empty past) during) :
    ∃ events, events.map Event.step = steps ∧ WrittenByWorkers workers events := by
  induction steps using concat_induction with
  | new =>
    refine ⟨[], rfl, ?_⟩
    intro before event later split
    simp at split
  | next steps step ih =>
    obtain ⟨events, rfl, written⟩ := ih fun before other later split =>
      h before other (later ++ [step]) (by simp [split])
    cases commit : step.call.isCommit with
    | false =>
      refine ⟨events ++ [⟨step, none⟩], by simp, written.concat fun here => ?_⟩
      exact absurd (commit.symm.trans here) Bool.false_ne_true
    | true =>
      obtain ⟨i, past, during, split, asks⟩ := h _ step [] rfl commit
      obtain ⟨d, result, concludes⟩ := (workers i).concludes_of_asks commit asks
      rw [← split] at concludes
      exact ⟨events ++ [⟨step, some result⟩], by simp,
        written.concat fun _ => ⟨i, d, result, rfl, concludes⟩⟩

/-- Workers commit under claims. -/
theorem WrittenByWorkers.commitsUnderClaims {events : List Event}
    (h : WrittenByWorkers workers events) : CommitsUnderClaims (events.map Event.step) := by
  intro before fresh consumer ticket token update now later split
  obtain ⟨earlier, rest, rfl, rfl, tail⟩ := List.map_eq_append_iff.1 split
  obtain ⟨event, rest, rfl, same, -⟩ := List.map_eq_cons_iff.1 tail
  have commit : event.step.call.isCommit = true := by rw [same]; rfl
  obtain ⟨i, d, result, -, concludes⟩ := h earlier event rest rfl commit
  obtain ⟨made, now', is⟩ := concludes.commit commit
  obtain ⟨first, claimedAt, claimed⟩ := concludes.claimedAfter
  rw [same] at is
  cases is
  exact ⟨first, claimedAt, d, claimed, rfl⟩

/-- What a claim handed out is what is stored, but for signs of life, until its token is spent. -/
theorem waits_or_spent_of_claimed {steps before : List Step} {now : Instant} {d : Delivery}
    (ids : (issuedTickets .empty steps).Nodup) (tokens : (issuedTokens .empty steps).Nodup)
    (h : ClaimedAfter steps before now d) :
    (∃ row, (run .empty steps).tickets.get? d.ticket.id = some row ∧ Waits d.ticket row) ∨
      Spent (run .empty steps) d.ticket.id d.ticket.token := by
  obtain ⟨fresh, candidate, consumer, timeout, later, rfl, answered⟩ := h
  obtain ⟨row, -, stored, -, -, taken, -, becomes⟩ := claimed_step answered
  have same : d.ticket.id = candidate.id := by
    rw [taken]
    exact (givenOut_run before _ row stored).1
  have split : before ++ ⟨fresh, .tryClaim candidate consumer timeout now⟩ :: later =
      before ++ [⟨fresh, .tryClaim candidate consumer timeout now⟩] ++ later := by simp
  have here : (run .empty (before ++ [⟨fresh, .tryClaim candidate consumer timeout now⟩])).tickets.get?
      d.ticket.id = some d.ticket := by
    rw [run_append, same]
    exact becomes
  rw [split] at ids tokens ⊢
  have once := not_mem_issuedTickets ids here
  have unseen := not_mem_issuedTokens tokens here
  rw [run_append]
  rcases waits_or_spent_run here once unseen with ⟨last, there, waits, -⟩ | spent
  · exact .inl ⟨last, there, waits⟩
  · exact .inr spent

/-- A run of a pool of workers: they alone write results, and no identifier is given out twice. Other
calls and broken off polls may stand between the calls of a poll in any number and order. -/
structure PoolRun (workers : ι → Worker η) (events : List Event) : Prop where
  ids : (issuedTickets .empty (events.map Event.step)).Nodup
  tokens : (issuedTokens .empty (events.map Event.step)).Nodup
  written : WrittenByWorkers workers events

theorem PoolRun.of_append {events more : List Event} (h : PoolRun workers (events ++ more)) :
    PoolRun workers events := by
  have ids := h.ids
  have tokens := h.tokens
  rw [List.map_append] at ids tokens
  exact ⟨nodup_issuedTickets ids, nodup_issuedTokens tokens, h.written.of_append⟩

theorem PoolRun.proper {events : List Event} (h : PoolRun workers events) :
    ProperRun (events.map Event.step) :=
  ⟨h.ids, h.tokens, h.written.commitsUnderClaims⟩

/-- The results that an event commits for a ticket: one, or none. -/
def Event.committed (event : Event) (id : TicketId) (s : Store) : List HandlerResult :=
  if event.step.call.committedTicket (event.step.answer s) = some id then event.result.toList
  else []

/-- What an event that commits these results for a ticket makes of its row. -/
inductive TicketEvent (workers : ι → Worker η) (row : Ticket) :
    (committed : List HandlerResult) → (next : Ticket) → Prop
  | kept {next} (retries : next.retryCount = row.retryCount)
      (snapshot : next.snapshot = row.snapshot)
      (done : row.state.isTerminal = true → next = row) : TicketEvent workers row [] next
  | committed {i result made token now} (working : row.state = .inProgress) :
      TicketEvent workers row [result]
        (row.updated ((workers i).update row result made) token now)

/-- Without a commit for it a ticket keeps its count and its snapshot, and wholly if it is done. -/
theorem kept_of_not_committed {s : Store} {id : TicketId} {row : Ticket} {step : Step}
    (stored : s.tickets.get? id = some row) (once : id ∉ step.issuedTickets s)
    (stays : step.call.committedTicket (step.answer s) ≠ some id) :
    ∃ next, (s.after step).tickets.get? id = some next ∧ TicketEvent workers row [] next := by
  cases ticketStep s id step with
  | kept same => exact ⟨row, same.trans stored, .kept rfl rfl fun _ => rfl⟩
  | published issued => exact absurd issued once
  | claimed _ _ found accepted _ becomes =>
    cases stored.symm.trans found
    refine ⟨_, becomes, .kept rfl rfl fun done => ?_⟩
    obtain ⟨live, -, -⟩ := acceptsClaim_eq_true_iff.1 accepted
    rw [live] at done
    cases done
  | @committed fresh consumer token update now _ valid found held =>
    have answer : Step.answer ⟨fresh, .commit consumer id token update now⟩ s =
        .ok (.committed (fresh.token 0)) :=
      congrArg Prod.fst (commit_of_held valid found held fresh)
    rw [answer] at stays
    exact absurd rfl stays
  | alive found _ working becomes =>
    cases stored.symm.trans found
    refine ⟨_, becomes, .kept rfl rfl fun done => ?_⟩
    rw [working] at done
    cases done

/-- A commit that goes through finds the ticket in progress, and writes what the worker makes of
the row that is stored. -/
theorem written_of_committed {events : List Event} {event : Event}
    (pool : PoolRun workers (events ++ [event])) {row : Ticket}
    (stored : (afterEvents events).tickets.get? row.id = some row)
    (goes : event.step.call.committedTicket (event.step.answer (afterEvents events)) =
      some row.id) :
    ∃ result next, event.result = some result ∧
      ((afterEvents events).after event.step).tickets.get? row.id = some next ∧
      TicketEvent workers row [result] next := by
  obtain ⟨step, label⟩ := event
  obtain ⟨fresh, consumer, token, update, now, next, rfl, answered⟩ := commit_of_committedTicket goes
  obtain ⟨_, valid, found, held, -, -, becomes⟩ := committed_step answered
  cases stored.symm.trans found
  obtain ⟨i, d, result, rfl, concludes⟩ := pool.written events _ [] rfl rfl
  obtain ⟨made, _, same⟩ := concludes.commit rfl
  obtain ⟨_, _, claimed⟩ := concludes.claimedAfter
  rw [Call.commit.injEq] at same
  obtain ⟨rfl, is, rfl, rfl, rfl⟩ := same
  have earlier := pool.of_append
  have proper := pool.proper
  rw [List.map_append] at proper
  have notLate := proper.not_late stored
  have working : row.state = .inProgress := by
    by_cases working : row.state = .inProgress
    · exact working
    · exact absurd (.intro valid held working) (notLate _ _)
  rcases waits_or_spent_of_claimed earlier.ids earlier.tokens claimed with
    ⟨_, there, waits⟩ | ⟨_, there, -, other⟩
  · rw [← is] at there
    cases there.symm.trans stored
    have retries : d.ticket.retryCount = row.retryCount := by rw [waits.alive]
    have computed : (workers i).update d.ticket result made =
        (workers i).update row result made := by
      unfold Worker.update
      rw [retries]
    refine ⟨result, _, rfl, becomes, ?_⟩
    rw [computed]
    exact .committed working
  · rw [← is] at there
    cases there.symm.trans stored
    exact absurd (token_of_isHeldBy held) other

theorem ticketEvent {events : List Event} {event : Event}
    (pool : PoolRun workers (events ++ [event])) {id : TicketId} {row : Ticket}
    (stored : (afterEvents events).tickets.get? id = some row) :
    ∃ next, (afterEvents (events ++ [event])).tickets.get? id = some next ∧
      TicketEvent workers row (event.committed id (afterEvents events)) next := by
  obtain ⟨rfl, -, -⟩ := givenOut_run _ id row stored
  rw [afterEvents_concat]
  unfold Event.committed
  split
  · next goes =>
    obtain ⟨result, next, label, becomes, change⟩ :=
      written_of_committed pool stored goes
    rw [label]
    exact ⟨next, becomes, change⟩
  · next stays =>
    have ids := pool.ids
    rw [List.map_append] at ids
    have once := not_mem_issuedTickets ids stored
    rw [List.map_cons, issuedTickets, List.mem_append, not_or] at once
    exact kept_of_not_committed stored once.1 stays

end

end Store
end MessageBus
