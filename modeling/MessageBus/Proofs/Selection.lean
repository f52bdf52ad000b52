import MessageBus.Proofs.Fencing
import MessageBus.Proofs.Interleaving

/-! Selecting a ticket and then claiming it. Other parties may act in between; the claim checks the
token and whether a claim in progress was given up, and nothing else of what the selection saw. That
is enough: whatever else could spoil the selection gives the ticket a new token. -/
namespace MessageBus.Store

/-- A stored ticket, with its message, that a poll of the queue may hand out. -/
structure Selectable (s : Store) (queue : QueueRef) (eligible : List TicketState)
    (timeout : Duration) (now : Instant) (d : Delivery) : Prop where
  stored : s.tickets.get? d.ticket.id = some d.ticket
  message : s.messages.get? d.ticket.message = some d.message
  queue : d.ticket.queue = queue
  live : d.ticket.state.isTerminal = false
  unexpired : d.message.isExpired now = false
  claimable : d.ticket.isClaimable eligible timeout now = true

/-- The ticket that a poll selects. -/
def findNext (s : Store) (fifo : Bool) (queue : QueueRef) (eligible : List TicketState)
    (timeout : Duration) (now : Instant) : Option Ticket :=
  if fifo then s.findNextFifo queue eligible timeout now
  else s.findNextNonFifo queue eligible timeout now

section
variable {s : Store} {queue : QueueRef} {eligible : List TicketState} {timeout : Duration}
variable {now : Instant}

theorem mem_liveTickets_iff {d : Delivery} :
    d ∈ s.liveTickets queue now ↔
      (∃ id, s.tickets.get? id = some d.ticket) ∧ d.ticket.queue = queue ∧
      d.ticket.state.isTerminal = false ∧ s.messages.get? d.ticket.message = some d.message ∧
      d.message.isExpired now = false := by
  obtain ⟨ticket, message⟩ := d
  simp only [liveTickets, List.mem_mergeSort, List.mem_filter, List.mem_filterMap,
    Table.mem_values_iff, Option.map_eq_some_iff]
  constructor
  · rintro ⟨⟨t, ⟨stored, test⟩, m, found, same⟩, unexpired⟩
    cases same
    simp only [Bool.and_eq_true, beq_iff_eq, Bool.not_eq_true'] at test unexpired
    exact ⟨stored, test.1, test.2, found, unexpired⟩
  · rintro ⟨stored, own, live, found, unexpired⟩
    exact ⟨⟨ticket, ⟨stored, by simp [own, live]⟩, message, found, rfl⟩, by simp [unexpired]⟩

/-- A list that is in order already need not be sorted. -/
theorem liveTickets_of_unsorted {live : List Delivery}
    (unsorted : ((s.tickets.values.filter fun t => t.queue == queue && !t.state.isTerminal).filterMap
      fun t => (s.messages.get? t.message).map (Delivery.mk t)).filter
        (fun d => !d.message.isExpired now) = live)
    (sorted : live.Pairwise fun a b => claimsBefore a b = true) :
    s.liveTickets queue now = live := by
  have same : s.liveTickets queue now = live.mergeSort claimsBefore :=
    congrArg (List.mergeSort · claimsBefore) unsorted
  rw [same, List.mergeSort_of_pairwise sorted]

theorem mem_liveTickets_of_findNext {fifo : Bool} {t : Ticket}
    (h : s.findNext fifo queue eligible timeout now = some t) :
    (∃ d ∈ s.liveTickets queue now, d.ticket = t) ∧ t.isClaimable eligible timeout now = true := by
  cases fifo with
  | true =>
    obtain ⟨first, claimable⟩ := Option.filter_eq_some_iff.1 h
    obtain ⟨d, head, rfl⟩ := Option.map_eq_some_iff.1 first
    exact ⟨⟨d, List.mem_of_head? head, rfl⟩, claimable⟩
  | false =>
    have claimable := List.find?_some h
    exact ⟨List.mem_map.1 (List.mem_of_find?_eq_some h), claimable⟩

/-- What is selected may be handed out, where tickets stand under their own identifiers. -/
theorem selectable_of_findNext (keyed : ∀ id row, s.tickets.get? id = some row → row.id = id)
    {fifo : Bool} {t : Ticket} (h : s.findNext fifo queue eligible timeout now = some t) :
    ∃ message, Selectable s queue eligible timeout now ⟨t, message⟩ := by
  obtain ⟨⟨d, mem, rfl⟩, claimable⟩ := mem_liveTickets_of_findNext h
  obtain ⟨⟨id, stored⟩, own, live, found, unexpired⟩ := mem_liveTickets_iff.1 mem
  have same := keyed id d.ticket stored
  subst same
  exact ⟨d.message, stored, found, own, live, unexpired, claimable⟩

end

/-! The two steps of a claim of the next ticket. -/

/-- The first of the two calls. -/
def selection (consumer : Consumer) (policy : DeliveryPolicy) (eligible : List TicketState)
    (now : Instant) : Call :=
  if policy.fifo then .findNextFifo consumer.queue eligible policy.processingTimeout now
  else .findNextNonFifo consumer.queue eligible policy.processingTimeout now

/-- What follows the first call. -/
def claimFound {η : Type} (consumer : Consumer) (timeout : Duration) (now : Instant) :
    Except StoreError (Option Ticket) → Routine η (Except StoreError ClaimOutcome)
  | .error e => .done (.error e)
  | .ok none => .done (.ok .empty)
  | .ok (some candidate) => Routine.ask (.attempt (.tryClaim candidate consumer timeout now))

section
variable {η : Type} {consumer : Consumer} {policy : DeliveryPolicy} {eligible : List TicketState}
variable {now : Instant} {delivery : Delivery}

theorem claimNext_run :
    (Routine.claimNext consumer policy eligible now : StoreRoutine η ClaimOutcome).run =
      Program.andThen (claimFound consumer policy.processingTimeout now)
        (if policy.fifo then
          Routine.ask (.attempt
            (.findNextFifo consumer.queue eligible policy.processingTimeout now))
        else
          Routine.ask (.attempt
            (.findNextNonFifo consumer.queue eligible policy.processingTimeout now))) := by
  unfold Routine.claimNext
  split
  all_goals
    refine congrArg (Program.andThen · _) (funext fun found => ?_)
    cases found with
    | error e => rfl
    | ok found => cases found <;> rfl

theorem selection_split {s : Store} {steps : List Step}
    {found : Except StoreError (Option Ticket)}
    (runs : Routine.Runs (if policy.fifo then
        (Routine.ask (.attempt
          (.findNextFifo consumer.queue eligible policy.processingTimeout now)) : Routine η _)
      else
        Routine.ask (.attempt
          (.findNextNonFifo consumer.queue eligible policy.processingTimeout now))) s steps found) :
    found = .error .cancelled ∨ ∃ before fresh later,
      steps = before ++ ⟨fresh, selection consumer policy eligible now⟩ :: later ∧
      found = .ok ((s.run before).findNext policy.fifo consumer.queue eligible
        policy.processingTimeout now) := by
  revert runs
  unfold selection findNext
  cases policy.fifo with
  | true =>
    intro runs
    rcases Routine.Runs.attempt_split runs with cancelled | ⟨before, fresh, later, rfl, rfl⟩
    · exact .inl cancelled
    · exact .inr ⟨before, fresh, later, rfl, rfl⟩
  | false =>
    intro runs
    rcases Routine.Runs.attempt_split runs with cancelled | ⟨before, fresh, later, rfl, rfl⟩
    · exact .inl cancelled
    · exact .inr ⟨before, fresh, later, rfl, rfl⟩

/-- A claim of the next ticket that goes through has both its calls among the steps. -/
theorem claimNext_split {s : Store} {steps : List Step}
    (runs : Routine.Runs
      (Routine.claimNext consumer policy eligible now : StoreRoutine η ClaimOutcome).run s steps
      (.ok (.claimed delivery))) :
    ∃ before first between fresh candidate after,
      steps = before ++ (⟨first, selection consumer policy eligible now⟩ :: between ++
        ⟨fresh, .tryClaim candidate consumer policy.processingTimeout now⟩ :: after) ∧
      (s.run before).findNext policy.fifo consumer.queue eligible policy.processingTimeout now =
        some candidate ∧
      (((s.run before).run (⟨first, selection consumer policy eligible now⟩ :: between)).tryClaim
        fresh candidate consumer policy.processingTimeout now).1 = .ok (.claimed delivery) := by
  rw [claimNext_run] at runs
  obtain ⟨found, head, rest, rfl, asked, ends⟩ := runs.split
  rcases selection_split asked with rfl | ⟨before, first, later, rfl, rfl⟩
  · cases ends.done_eq
  · cases selected : (s.run before).findNext policy.fifo consumer.queue eligible
        policy.processingTimeout now with
    | none =>
      rw [selected] at ends
      cases ends.done_eq
    | some candidate =>
      rw [selected] at ends
      rcases Routine.Runs.attempt_split ends with cancelled | ⟨others, fresh, after, rfl, answered⟩
      · cases cancelled
      · refine ⟨before, first, later ++ others, fresh, candidate, after, by simp, selected, ?_⟩
        rw [run_append] at answered
        rw [← List.cons_append, run_append]
        exact answered.symm

/-- The selection, and then what follows from what it finds. -/
theorem runs_claimNext_of_claimFound {s : Store} {first : Fresh} {steps : List Step}
    {result : Except StoreError ClaimOutcome}
    (claims : Routine.Runs (claimFound consumer policy.processingTimeout now
      (.ok (s.findNext policy.fifo consumer.queue eligible policy.processingTimeout now)) :
        Routine η _) s steps result) :
    Routine.Runs (Routine.claimNext consumer policy eligible now : StoreRoutine η ClaimOutcome).run
      s (⟨first, selection consumer policy eligible now⟩ :: steps) result := by
  rw [claimNext_run]
  unfold selection
  cases inOrder : policy.fifo with
  | true =>
    rw [inOrder] at claims
    exact Routine.Runs.asked (.attempt first) claims
  | false =>
    rw [inOrder] at claims
    exact Routine.Runs.asked (.attempt first) claims

/-- A poll whose calls go through hands out the delivery. -/
theorem runs_claimNext {s : Store} {candidate : Ticket} (first fresh : Fresh)
    (found : s.findNext policy.fifo consumer.queue eligible policy.processingTimeout now =
      some candidate)
    (claimed : (s.tryClaim fresh candidate consumer policy.processingTimeout now).1 =
      .ok (.claimed delivery)) :
    Routine.Runs (Routine.claimNext consumer policy eligible now : StoreRoutine η ClaimOutcome).run
      s [⟨first, selection consumer policy eligible now⟩,
        ⟨fresh, .tryClaim candidate consumer policy.processingTimeout now⟩]
      (.ok (.claimed delivery)) := by
  have answer : Step.answer ⟨fresh, .tryClaim candidate consumer policy.processingTimeout now⟩ s =
      .ok (.claimed delivery) := claimed
  have claims : Routine.Runs
      (claimFound consumer policy.processingTimeout now (.ok (some candidate)) : Routine η _) s
      [⟨fresh, .tryClaim candidate consumer policy.processingTimeout now⟩]
      (.ok (.claimed delivery)) := by
    refine Routine.Runs.asked (.attempt fresh) ?_
    rw [answer]
    exact .done
  rw [← found] at claims
  exact runs_claimNext_of_claimFound claims

end

/-! What can become of a selected ticket before it is claimed. -/

/-- A step by which the ticket is claimed or committed. -/
def opens (id : TicketId) (s : Store) (step : Step) : Bool :=
  (step.call.exercised (step.answer s)).any fun opened => opened.1 == id

theorem exercises_of_opens {id : TicketId} {s : Store} {step : Step}
    (h : opens id s step = true) : ∃ token, exercises id token s step = true := by
  obtain ⟨⟨ticket, token⟩, opened, same⟩ := (Option.any_eq_true _ _).1 h
  rw [beq_iff_eq] at same
  subst same
  exact ⟨token, beq_iff_eq.2 opened⟩

/-- A later row of a ticket to which at most signs of life were given meanwhile. -/
structure Waits (row later : Ticket) : Prop where
  alive : later = { row with lastAccess := later.lastAccess }
  idle : row.state ≠ .inProgress → later = row

theorem Waits.refl (row : Ticket) : Waits row row := ⟨rfl, fun _ => rfl⟩

theorem Waits.trans {a b c : Ticket} (h : Waits a b) (k : Waits b c) : Waits a c where
  alive := by
    rw [k.alive, h.alive]
  idle idle := by
    have same := h.idle idle
    subst same
    exact k.idle idle

theorem waits_or_spent_after {s : Store} {id : TicketId} {row : Ticket} {step : Step}
    (stored : s.tickets.get? id = some row) (once : id ∉ step.issuedTickets s)
    (unseen : row.token ∉ step.issuedTokens s) :
    (∃ later, (s.after step).tickets.get? id = some later ∧ Waits row later ∧
      opens id s step = false) ∨ Spent (s.after step) id row.token := by
  cases opened : opens id s step with
  | true =>
    obtain ⟨token, opens⟩ := exercises_of_opens opened
    exact .inr (spent_of_exercises opens unseen).2
  | false =>
    cases ticketStep s id step with
    | kept same => exact .inl ⟨row, same.trans stored, .refl row, rfl⟩
    | published issued => exact absurd issued once
    | claimed _ _ _ _ drawn becomes =>
      exact .inr (spent_of_drawn becomes (Option.some_ne_none _) drawn unseen)
    | committed _ _ held drawn becomes =>
      have owned := owned_of_isHeldBy held
      exact .inr (spent_of_drawn becomes owned drawn unseen)
    | alive found _ working becomes =>
      cases stored.symm.trans found
      exact .inl ⟨_, becomes, ⟨rfl, fun idle => absurd working idle⟩, rfl⟩

/-- Until the ticket is claimed or committed it waits; from then on its token is spent. -/
theorem waits_or_spent_run {s : Store} {id : TicketId} {row : Ticket} {steps : List Step}
    (stored : s.tickets.get? id = some row) (once : id ∉ s.issuedTickets steps)
    (unseen : row.token ∉ s.issuedTokens steps) :
    (∃ later, (s.run steps).tickets.get? id = some later ∧ Waits row later ∧
      countAlong (opens id) s steps = 0) ∨ Spent (s.run steps) id row.token := by
  induction steps generalizing s row with
  | nil => exact .inl ⟨row, stored, .refl row, rfl⟩
  | cons step steps ih =>
    rw [issuedTickets, List.mem_append, not_or] at once
    rw [issuedTokens, List.mem_append, not_or] at unseen
    rcases waits_or_spent_after stored once.1 unseen.1 with ⟨next, found, waits, shut⟩ | spent
    · have token : next.token = row.token := by rw [waits.alive]
      rcases ih found once.2 (token ▸ unseen.2) with ⟨later, last, rest, none⟩ | spent
      · refine .inl ⟨later, last, waits.trans rest, ?_⟩
        rw [countAlong, shut, none]
        rfl
      · exact .inr (token ▸ spent)
    · exact .inr (spent.run once.2 unseen.2)

/-- A selected ticket that waits and accepts the claim may still be handed out: signs of life are
given only to a claim in progress, and the claim looks at those again. -/
theorem Selectable.of_waits {s t : Store} {queue : QueueRef} {eligible : List TicketState}
    {timeout : Duration} {now : Instant} {d : Delivery} {later : Ticket}
    {observed : ConcurrencyToken} (h : Selectable s queue eligible timeout now d)
    (waits : Waits d.ticket later) (stored : t.tickets.get? d.ticket.id = some later)
    (message : t.messages.get? d.ticket.message = some d.message)
    (accepted : later.acceptsClaim observed timeout now = true) :
    Selectable t queue eligible timeout now ⟨later, d.message⟩ := by
  have id : later.id = d.ticket.id := by rw [waits.alive]
  have ofMessage : later.message = d.ticket.message := by rw [waits.alive]
  have state : later.state = d.ticket.state := by rw [waits.alive]
  obtain ⟨live, -, stale⟩ := acceptsClaim_eq_true_iff.1 accepted
  refine ⟨id ▸ stored, ofMessage ▸ message, ?_, live, h.unexpired, ?_⟩
  · rw [waits.alive]
    exact h.queue
  · by_cases working : d.ticket.state = .inProgress
    · have stale := stale.resolve_left (not_not_intro (state.trans working))
      simp only [Ticket.isClaimable, state.trans working, if_true]
      exact stale
    · rw [waits.idle working]
      exact h.claimable

/-- A ticket that a claim of the next one hands out is one that it may hand out, in the very store
that the claim is made in, and nobody has claimed or committed it since its selection. -/
theorem claimNext_sound {η : Type} {past steps : List Step}
    (ids : (issuedTickets .empty (past ++ steps)).Nodup)
    (tokens : (issuedTokens .empty (past ++ steps)).Nodup) {consumer : Consumer}
    {policy : DeliveryPolicy} {eligible : List TicketState} {now : Instant} {delivery : Delivery}
    (runs : Routine.Runs
      (Routine.claimNext consumer policy eligible now : StoreRoutine η ClaimOutcome).run
      (run .empty past) steps (.ok (.claimed delivery))) :
    ∃ before first between fresh candidate after row,
      steps = before ++ (⟨first, selection consumer policy eligible now⟩ :: between ++
        ⟨fresh, .tryClaim candidate consumer policy.processingTimeout now⟩ :: after) ∧
      let selected := run .empty (past ++ before)
      let s := selected.run (⟨first, selection consumer policy eligible now⟩ :: between)
      selected.findNext policy.fifo consumer.queue eligible policy.processingTimeout now =
        some candidate ∧
      (s.tryClaim fresh candidate consumer policy.processingTimeout now).1 =
        .ok (.claimed delivery) ∧
      delivery.ticket = row.claimedBy consumer.instanceUuid (fresh.token 0) now ∧
      Selectable s consumer.queue eligible policy.processingTimeout now ⟨row, delivery.message⟩ ∧
      Waits candidate row ∧
      countAlong (opens row.id) selected
        (⟨first, selection consumer policy eligible now⟩ :: between) = 0 := by
  obtain ⟨before, first, between, fresh, candidate, after, rfl, found, answered⟩ :=
    claimNext_split runs
  rw [← run_append .empty past before] at found answered
  rw [← List.append_assoc] at ids tokens
  have keyed : ∀ id row, (run .empty (past ++ before)).tickets.get? id = some row → row.id = id :=
    fun id row stored => (givenOut_run (past ++ before) id row stored).1
  obtain ⟨message, selectable⟩ := selectable_of_findNext keyed found
  have once := not_mem_issuedTickets ids selectable.stored
  have unseen := not_mem_issuedTokens tokens selectable.stored
  rw [issuedTickets_append, List.mem_append, not_or] at once
  rw [issuedTokens_append, List.mem_append, not_or] at unseen
  obtain ⟨row, -, stored, accepted, ofRow, taken⟩ := accepted_of_claimed answered
  rcases waits_or_spent_run selectable.stored once.1 unseen.1 with ⟨later, last, waits, none⟩ | spent
  · cases stored.symm.trans last
    have kept := message_run selectable.message
      (⟨first, selection consumer policy eligible now⟩ :: between)
    have same : row.message = candidate.message := by rw [waits.alive]
    have id : row.id = candidate.id := by rw [waits.alive]
    rw [same] at ofRow
    cases kept.symm.trans ofRow
    refine ⟨before, first, between, fresh, candidate, after, row, rfl, found, answered, taken,
      selectable.of_waits waits stored kept accepted, waits, ?_⟩
    rw [id]
    exact none
  · obtain ⟨_, stored', owned, other⟩ := spent
    cases stored.symm.trans stored'
    rw [acceptsClaim_eq_false owned other] at accepted
    cases accepted

theorem findNext_oneTicket :
    (run .empty oneTicket).findNextNonFifo runner.queue TicketState.defaultEligible
      DeliveryPolicy.default.processingTimeout default = some ticketAtFirst := by
  have unsorted : (((run .empty oneTicket).tickets.values.filter fun t =>
      t.queue == runner.queue && !t.state.isTerminal).filterMap fun t =>
        ((run .empty oneTicket).messages.get? t.message).map (Delivery.mk t)).filter
          (fun d => !d.message.isExpired default) = [⟨ticketAtFirst, oneMessage⟩] := by
    decide +kernel
  have live : (run .empty oneTicket).liveTickets runner.queue default =
      [⟨ticketAtFirst, oneMessage⟩] :=
    (congrArg (List.mergeSort · claimsBefore) unsorted).trans (List.mergeSort_singleton _)
  rw [findNextNonFifo, live]
  decide +kernel

/-- The vain call of another party, between the two calls of a poll. -/
def betweenCalls : Step :=
  ⟨freshFrom 2100, .heartbeat otherRunner ticketAtFirst.id ticketAtFirst.token default⟩

/-- A poll of the one ticket, with that call in between. -/
def pollOfOne : List Step := [
  ⟨freshFrom 2000, selection runner .default TicketState.defaultEligible default⟩, betweenCalls,
  ⟨freshFrom 2200, .tryClaim ticketAtFirst runner DeliveryPolicy.default.processingTimeout default⟩]

def deliveryOfOne : Delivery :=
  ⟨ticketAtFirst.claimedBy runner.instanceUuid ⟨.ofNat 2200⟩ default, oneMessage⟩

theorem runs_pollOfOne : Routine.Runs
    (Routine.claimNext runner .default TicketState.defaultEligible default :
      StoreRoutine Unit ClaimOutcome).run (run .empty oneTicket) pollOfOne
    (.ok (.claimed deliveryOfOne)) := by
  have claimed : Step.answer ⟨freshFrom 2200,
      .tryClaim ticketAtFirst runner DeliveryPolicy.default.processingTimeout default⟩
      ((run .empty oneTicket).after betweenCalls) = .ok (.claimed deliveryOfOne) := rfl
  rw [claimNext_run]
  refine Routine.Runs.asked (.attempt (freshFrom 2000)) ?_
  change Routine.Runs (claimFound _ _ _ (.ok ((run .empty oneTicket).findNextNonFifo
    runner.queue TicketState.defaultEligible DeliveryPolicy.default.processingTimeout default))) _ _ _
  rw [findNext_oneTicket]
  refine .other betweenCalls (.asked (.attempt (freshFrom 2200)) ?_)
  change Routine.Runs (.done (Step.answer _ ((run .empty oneTicket).after betweenCalls))) _ _ _
  rw [claimed]
  exact .done

theorem claimNext_sound_pollOfOne :
    (issuedTickets .empty (oneTicket ++ pollOfOne)).Nodup ∧
    (issuedTokens .empty (oneTicket ++ pollOfOne)).Nodup ∧
    Routine.Runs (Routine.claimNext runner .default TicketState.defaultEligible default :
      StoreRoutine Unit ClaimOutcome).run (run .empty oneTicket) pollOfOne
      (.ok (.claimed deliveryOfOne)) ∧
    ∃ s row, deliveryOfOne.ticket.id = row.id ∧
      Selectable s runner.queue TicketState.defaultEligible DeliveryPolicy.default.processingTimeout
        default ⟨row, oneMessage⟩ := by
  have ids : (issuedTickets .empty (oneTicket ++ pollOfOne)).Nodup := by decide +kernel
  have tokens : (issuedTokens .empty (oneTicket ++ pollOfOne)).Nodup := by decide +kernel
  obtain ⟨_, _, _, _, _, _, row, -, -, -, taken, selectable, -⟩ :=
    claimNext_sound ids tokens runs_pollOfOne
  refine ⟨ids, tokens, runs_pollOfOne, _, row, ?_, selectable⟩
  rw [taken]
  rfl

end MessageBus.Store
