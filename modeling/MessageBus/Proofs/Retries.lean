import MessageBus.Proofs.Workers

/-! How retries are counted. The count of a ticket is kept by the workers: each adds one to the copy
that its claim handed out. Since a commit goes through only where that copy is still good, no failure
is lost and none is counted twice. -/
namespace MessageBus

def HandlerResult.isFailure (result : HandlerResult) : Bool :=
  match result.outcome with
  | .failed _ => true
  | _ => false

theorem TicketUpdate.toNat_countFailure (retries : UInt32) :
    (countFailure retries).toNat = min (retries.toNat + 1) 0xFFFFFFFF := by
  have bound := retries.toNat_lt
  unfold countFailure
  split
  · next full =>
    subst full
    rfl
  · next room =>
    have notFull : retries.toNat ≠ 0xFFFFFFFF := fun same => room (UInt32.toNat_inj.1 same)
    rw [UInt32.toNat_add]
    change (retries.toNat + 1) % 2 ^ 32 = _
    omega

namespace Worker
variable {η : Type} (w : Worker η)

theorem retryCount_update (row : Ticket) (result : HandlerResult) (now : Instant) :
    (w.update row result now).retryCount =
      if result.isFailure then TicketUpdate.countFailure row.retryCount else row.retryCount := by
  unfold update HandlerResult.isFailure
  cases result.outcome with
  | failed reason =>
    simp only [TicketUpdate.ofOutcome]
    split <;> rfl
  | completed => rfl
  | deferred due => rfl
  | rejected reason => rfl

/-- The failure that reaches the limit suspends the ticket. -/
theorem state_update_of_exhausted {row : Ticket} {result : HandlerResult}
    (failure : result.isFailure = true) {limit : UInt32} (limited : w.policy.maxRetry = some limit)
    (reached : limit ≤ TicketUpdate.countFailure row.retryCount) (now : Instant) :
    (w.update row result now).state = .suspended := by
  have exhausted : w.policy.retriesExhausted (TicketUpdate.countFailure row.retryCount) = true := by
    simpa [DeliveryPolicy.retriesExhausted, limited] using reached
  unfold update
  unfold HandlerResult.isFailure at failure
  cases same : result.outcome with
  | failed reason => simp [TicketUpdate.ofOutcome, exhausted]
  | completed => simp [same] at failure
  | deferred due => simp [same] at failure
  | rejected reason => simp [same] at failure

end Worker

namespace Store

/-- The results that a history commits for a ticket, in order. -/
def committedResults (id : TicketId) (s : Store) : List Event → List HandlerResult
  | [] => []
  | event :: rest => event.committed id s ++ committedResults id (s.after event.step) rest

theorem committedResults_append (id : TicketId) (s : Store) (xs ys : List Event) :
    s.committedResults id (xs ++ ys) =
      s.committedResults id xs ++ (s.run (xs.map Event.step)).committedResults id ys := by
  induction xs generalizing s with
  | nil => rfl
  | cons event xs ih => simp [committedResults, ih]

/-- How many of them are failures. -/
def failures (id : TicketId) (events : List Event) : Nat :=
  (committedResults id .empty events).countP HandlerResult.isFailure

theorem failures_concat (id : TicketId) (events : List Event) (event : Event) :
    failures id (events ++ [event]) = failures id events +
      (event.committed id (afterEvents events)).countP HandlerResult.isFailure := by
  have last : (afterEvents events).committedResults id [event] =
      event.committed id (afterEvents events) := List.append_nil _
  rw [failures, committedResults_append, List.countP_append]
  exact congrArg _ (congrArg _ last)

section
variable {ι η : Type} {workers : ι → Worker η}

theorem TicketEvent.toNat_retryCount {row next : Ticket} {committed : List HandlerResult}
    (h : TicketEvent workers row committed next) :
    next.retryCount.toNat =
      min (row.retryCount.toNat + committed.countP HandlerResult.isFailure) 0xFFFFFFFF := by
  have bound := row.retryCount.toNat_lt
  cases h with
  | kept retries =>
    rw [retries, List.countP_nil]
    omega
  | @committed i result made token now working =>
    have count : (row.updated ((workers i).update row result made) token now).retryCount = _ :=
      (workers i).retryCount_update row result made
    rw [count, List.countP_singleton]
    split
    · exact TicketUpdate.toNat_countFailure row.retryCount
    · omega

/-- What is done is committed no more. -/
theorem TicketEvent.of_done {row next : Ticket} {committed : List HandlerResult}
    (h : TicketEvent workers row committed next) (done : row.state.isTerminal = true) :
    committed = [] ∧ next = row := by
  cases h with
  | kept _ _ same => exact ⟨rfl, same done⟩
  | committed working =>
    rw [working] at done
    cases done

theorem committed_of_unknown {s : Store} {id : TicketId} (unknown : s.tickets.get? id = none)
    (event : Event) : event.committed id s = [] := by
  refine if_neg fun goes => ?_
  obtain ⟨_, _, _, _, _, _, -, answered⟩ := commit_of_committedTicket goes
  obtain ⟨_, -, stored, -⟩ := committed_step answered
  exact absurd (unknown.symm.trans stored) (Option.some_ne_none _).symm

/-- A ticket begins with no failures. -/
theorem retryCount_of_new {s : Store} {id : TicketId} {row : Ticket} {step : Step}
    (unknown : s.tickets.get? id = none) (stored : (s.after step).tickets.get? id = some row) :
    row.retryCount = 0 := by
  obtain ⟨_, _, _, rfl⟩ := eq_fresh_of_unknown unknown stored
  rfl

/-- The count of a ticket is the number of its failures. -/
structure Counted (events : List Event) (id : TicketId) : Prop where
  unknown : (afterEvents events).tickets.get? id = none → failures id events = 0
  stored : ∀ row, (afterEvents events).tickets.get? id = some row →
    row.retryCount.toNat = min (failures id events) 0xFFFFFFFF

theorem Counted.failures_concat_of_unknown {events : List Event} {id : TicketId}
    (h : Counted events id) (unknown : (afterEvents events).tickets.get? id = none)
    (event : Event) : failures id (events ++ [event]) = 0 := by
  rw [failures_concat, h.unknown unknown, committed_of_unknown unknown]
  rfl

theorem PoolRun.counted {events : List Event} (pool : PoolRun workers events) (id : TicketId) :
    Counted events id := by
  induction events using concat_induction with
  | new => exact ⟨fun _ => rfl, fun row stored => by cases stored⟩
  | next events event ih =>
    have ih := ih pool.of_append
    cases known : (afterEvents events).tickets.get? id with
    | none =>
      have zero := ih.failures_concat_of_unknown known event
      refine ⟨fun _ => zero, fun row stored => ?_⟩
      rw [afterEvents_concat] at stored
      rw [zero, retryCount_of_new known stored]
      rfl
    | some row =>
      obtain ⟨next, becomes, change⟩ := ticketEvent pool known
      refine ⟨fun unknown => ?_, fun row' stored => ?_⟩
      · cases unknown.symm.trans becomes
      cases becomes.symm.trans stored
      rw [change.toNat_retryCount, ih.stored row known, failures_concat]
      omega

/-- What the limit of all workers means for a ticket. -/
structure Limited (limit : UInt32) (events : List Event) (id : TicketId) : Prop where
  bounded : failures id events ≤ max limit.toNat 1
  suspended : failures id events = max limit.toNat 1 →
    ∃ row, (afterEvents events).tickets.get? id = some row ∧ row.state = .suspended

/-- A ticket that has reached its limit is done, and the failure that reaches it suspends. -/
theorem Limited.concat {limit : UInt32} (same : ∀ i, (workers i).policy.maxRetry = some limit)
    {events : List Event} {event : Event} {id : TicketId} (h : Limited limit events id)
    {row next : Ticket} (stored : (afterEvents events).tickets.get? id = some row)
    (count : row.retryCount.toNat = min (failures id events) 0xFFFFFFFF)
    (becomes : (afterEvents (events ++ [event])).tickets.get? id = some next)
    (change : TicketEvent workers row (event.committed id (afterEvents events)) next) :
    Limited limit (events ++ [event]) id := by
  have more := failures_concat id events event
  have bound := limit.toNat_lt
  have below := h.bounded
  have suspended : failures id events = max limit.toNat 1 → row.state = .suspended := by
    intro full
    obtain ⟨_, there, suspended⟩ := h.suspended full
    cases there.symm.trans stored
    exact suspended
  generalize event.committed id (afterEvents events) = results at change more
  cases change with
  | kept _ _ done =>
    rw [List.countP_nil, Nat.add_zero] at more
    refine ⟨by omega, fun full => ?_⟩
    rw [more] at full
    have same := done (by rw [suspended full]; rfl)
    subst same
    exact ⟨_, becomes, suspended full⟩
  | @committed i result made token now working =>
    have notFull : failures id events ≠ max limit.toNat 1 := by
      intro full
      cases working.symm.trans (suspended full)
    rw [List.countP_singleton] at more
    cases failure : result.isFailure with
    | false =>
      rw [failure, if_neg Bool.false_ne_true] at more
      exact ⟨by omega, fun full => by omega⟩
    | true =>
      rw [failure, if_pos rfl] at more
      refine ⟨by omega, fun full => ⟨_, becomes, ?_⟩⟩
      refine (workers i).state_update_of_exhausted failure (same i) ?_ made
      rw [UInt32.le_iff_toNat_le, TicketUpdate.toNat_countFailure]
      omega

theorem PoolRun.limited {limit : UInt32} (same : ∀ i, (workers i).policy.maxRetry = some limit)
    {events : List Event} (pool : PoolRun workers events) (id : TicketId) :
    Limited limit events id := by
  induction events using concat_induction with
  | new =>
    have none : failures id [] = 0 := rfl
    exact ⟨by omega, fun full => by omega⟩
  | next events event ih =>
    have ih := ih pool.of_append
    have counted := pool.of_append.counted id
    cases known : (afterEvents events).tickets.get? id with
    | none =>
      have none := counted.failures_concat_of_unknown known event
      exact ⟨by omega, fun full => by omega⟩
    | some row =>
      obtain ⟨next, becomes, change⟩ := ticketEvent pool known
      exact ih.concat same known (counted.stored row known) becomes change

/-- No failure is lost and none counted twice: the count of a ticket is the number of failures that
were committed for it, at its greatest value if there are more. Nothing else changes it, and what is
done is committed no more. With a limit there are so many failures at most, or one where the limit is
zero, and the last of them suspends the ticket. -/
theorem retries_accounted {events : List Event} (pool : PoolRun workers events) (id : TicketId) :
    (∀ row, (afterEvents events).tickets.get? id = some row →
      row.retryCount.toNat = min (failures id events) 0xFFFFFFFF) ∧
    (∀ before event later, events = before ++ event :: later →
      ∀ row, (afterEvents before).tickets.get? id = some row →
      ∃ next, (afterEvents (before ++ [event])).tickets.get? id = some next ∧
        ((event.committed id (afterEvents before)).any HandlerResult.isFailure = false →
          next.retryCount = row.retryCount) ∧
        (row.state.isTerminal = true → next = row ∧
          event.step.call.committedTicket (event.step.answer (afterEvents before)) ≠ some id)) ∧
    ∀ limit, (∀ i, (workers i).policy.maxRetry = some limit) →
      failures id events ≤ max limit.toNat 1 ∧
      ∀ before later, events = before ++ later → failures id before = max limit.toNat 1 →
        ∃ row, (afterEvents before).tickets.get? id = some row ∧ row.state = .suspended := by
  refine ⟨(pool.counted id).stored, ?_, ?_⟩
  · rintro before event later rfl row stored
    have split : before ++ event :: later = before ++ [event] ++ later := by simp
    rw [split] at pool
    obtain ⟨next, becomes, change⟩ := ticketEvent pool.of_append stored
    refine ⟨next, becomes, fun quiet => ?_, fun done => ⟨(change.of_done done).2, fun goes => ?_⟩⟩
    · have none : (event.committed id (afterEvents before)).countP HandlerResult.isFailure = 0 := by
        simpa using quiet
      have bound := row.retryCount.toNat_lt
      refine UInt32.toNat_inj.1 ?_
      rw [change.toNat_retryCount, none]
      omega
    · obtain ⟨rfl, -, -⟩ := givenOut_run _ id row stored
      obtain ⟨result, _, -, -, change⟩ := written_of_committed pool.of_append stored goes
      cases (change.of_done done).1
  · intro limit same
    refine ⟨(pool.limited same id).bounded, ?_⟩
    rintro before later rfl full
    exact (pool.of_append.limited same id).suspended full

end

/-! A worker without handlers, which fails the one ticket for good. -/

def clerk : Worker Unit where
  registry := .empty .json
  consumer := runner
  policy := DeliveryPolicy.default.withMaxRetry (some 1)
  config := .default
  correlation := .none

def clerkAtWork : List Step := oneTicket ++ [
  ⟨freshFrom 0, .startInstance (.subscriber (.starting ⟨.ofNat 8⟩ ⟨.ofNat 5⟩ ⟨.ofNat 2⟩ default))⟩]

/-- The calls of its poll up to the claim. -/
def clerkSeeks : List Step := [
  ⟨freshFrom 0, .touchInstance runner.ref default⟩,
  ⟨freshFrom 1200, selection runner clerk.policy clerk.config.eligible default⟩,
  ⟨freshFrom 2000, .tryClaim ticketAtFirst runner clerk.policy.processingTimeout default⟩]

def clerkResult : HandlerResult := .failed (DispatchError.unknownType "type").message

def clerkCommits : Step :=
  ⟨freshFrom 3000, .commit runner ticketAtFirst.id ⟨.ofNat 2000⟩ ⟨.suspended, 1, none, none⟩ default⟩

def clerkHistory : List Event :=
  (clerkAtWork ++ clerkSeeks).map (Event.mk · none) ++ [⟨clerkCommits, some clerkResult⟩]

def clerkDelivery : Delivery :=
  ⟨ticketAtFirst.claimedBy runner.instanceUuid ⟨.ofNat 2000⟩ default, oneMessage⟩

theorem findNext_clerk : ((run .empty clerkAtWork).after
      ⟨freshFrom 0, .touchInstance runner.ref default⟩).findNext clerk.policy.fifo
      clerk.consumer.queue clerk.config.eligible clerk.policy.processingTimeout default =
      some ticketAtFirst := by
  have live : ((run .empty clerkAtWork).after
      ⟨freshFrom 0, .touchInstance runner.ref default⟩).liveTickets runner.queue default =
      [⟨ticketAtFirst, oneMessage⟩] :=
    liveTickets_of_unsorted (by decide +kernel) (List.pairwise_singleton _ _)
  change findNextNonFifo _ runner.queue _ _ _ = _
  rw [findNextNonFifo, live]
  decide +kernel

theorem seeking_clerk : Routine.Runs clerk.seeking.run (run .empty clerkAtWork) clerkSeeks
    (.ok (.claimed clerkDelivery)) := by
  have touched : Step.answer ⟨freshFrom 0, .touchInstance clerk.consumer.ref default⟩
      (run .empty clerkAtWork) = .ok () := rfl
  refine .elsewhere default (fun _ => ⟨nofun, nofun⟩) ?_
  refine .elsewhere false (fun _ => ⟨nofun, nofun⟩) ?_
  refine Routine.Runs.asked (.attempt (freshFrom 0)) ?_
  rw [touched]
  refine .elsewhere false (fun _ => ⟨nofun, nofun⟩) ?_
  exact runs_claimNext (freshFrom 1200) (freshFrom 2000) findNext_clerk rfl

theorem handling_clerk : Routine.Runs (clerk.handling clerkDelivery).run
    (run .empty (clerkAtWork ++ clerkSeeks)) [] (.ok (0, clerkResult)) := by
  refine .elsewhere (some ⟨⟨1⟩, "type", "Type"⟩) (fun _ => ⟨nofun, nofun⟩) ?_
  refine .elsewhere 0 (fun _ => ⟨nofun, nofun⟩) ?_
  exact .done

theorem concludes_clerk :
    clerk.Concludes (clerkAtWork ++ clerkSeeks) clerkDelivery clerkResult clerkCommits.call := by
  refine ⟨clerkAtWork, clerkSeeks, [], [], 0, rfl, seeking_clerk, handling_clerk, ?_⟩
  refine .elsewhere () (fun _ => ⟨nofun, nofun⟩) ?_
  refine .elsewhere default (fun _ => ⟨nofun, nofun⟩) ?_
  refine .elsewhere default (fun _ => ⟨nofun, nofun⟩) ?_
  exact .here

theorem poolRun_clerk : PoolRun (fun _ : Unit => clerk) clerkHistory where
  ids := by decide +kernel
  tokens := by decide +kernel
  written := .concat (.of_quiet (by decide +kernel)) fun _ =>
    ⟨(), clerkDelivery, clerkResult, rfl, concludes_clerk⟩

theorem retries_accounted_clerk :
    PoolRun (fun _ : Unit => clerk) clerkHistory ∧
    (∀ row, (afterEvents clerkHistory).tickets.get? ticketAtFirst.id = some row →
      row.retryCount.toNat = min (failures ticketAtFirst.id clerkHistory) 0xFFFFFFFF) ∧
    failures ticketAtFirst.id clerkHistory = 1 ∧
    ∃ row, (afterEvents clerkHistory).tickets.get? ticketAtFirst.id = some row ∧
      row.state = .suspended := by
  obtain ⟨counted, -, limited⟩ := retries_accounted poolRun_clerk ticketAtFirst.id
  have one : failures ticketAtFirst.id clerkHistory = 1 := by decide +kernel
  obtain ⟨-, suspended⟩ := limited 1 fun _ => rfl
  exact ⟨poolRun_clerk, counted, one, suspended clerkHistory [] (by simp) one⟩

end Store
end MessageBus
