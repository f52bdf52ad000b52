import MessageBus.Proofs.Delivery

/-! What one step of a run can do to a ticket: publish it, give it to a claim, write a result to it,
or note a sign of life. From this come the facts that hold along every run: tickets and messages
stay, a ticket keeps its identifier, queue and message, and what is stored was given out. -/
namespace MessageBus.Store

/-- What a step does to the row under an identifier. -/
inductive TicketStep (s : Store) (id : TicketId) : Step → Prop
  | kept {step} (same : (s.after step).tickets.get? id = s.tickets.get? id) : TicketStep s id step
  | published {fresh message targets queue token}
      (issued : id ∈ Step.issuedTickets ⟨fresh, .publish message targets⟩ s)
      (drawn : token ∈ Step.issuedTokens ⟨fresh, .publish message targets⟩ s)
      (publishable : s.Publishable message targets)
      (becomes : (s.after ⟨fresh, .publish message targets⟩).tickets.get? id =
        some (.fresh id token queue message.id)) :
      TicketStep s id ⟨fresh, .publish message targets⟩
  | claimed {fresh candidate consumer timeout now row}
      (is : candidate.id = id)
      (queue : candidate.queue = consumer.queue)
      (stored : s.tickets.get? id = some row)
      (accepted : row.acceptsClaim candidate.token timeout now = true)
      (drawn : fresh.token 0 ∈
        Step.issuedTokens ⟨fresh, .tryClaim candidate consumer timeout now⟩ s)
      (becomes : (s.after ⟨fresh, .tryClaim candidate consumer timeout now⟩).tickets.get? id =
        some (row.claimedBy consumer.instanceUuid (fresh.token 0) now)) :
      TicketStep s id ⟨fresh, .tryClaim candidate consumer timeout now⟩
  | committed {fresh consumer token update now row}
      (valid : TicketState.inProgress.canMoveTo update.state = true)
      (stored : s.tickets.get? id = some row)
      (held : row.isHeldBy consumer token = true)
      (drawn : fresh.token 0 ∈ Step.issuedTokens ⟨fresh, .commit consumer id token update now⟩ s)
      (becomes : (s.after ⟨fresh, .commit consumer id token update now⟩).tickets.get? id =
        some (row.updated update (fresh.token 0) now)) :
      TicketStep s id ⟨fresh, .commit consumer id token update now⟩
  | alive {fresh consumer token now row}
      (stored : s.tickets.get? id = some row)
      (held : row.isHeldBy consumer token = true)
      (working : row.state = .inProgress)
      (becomes : (s.after ⟨fresh, .heartbeat consumer id token now⟩).tickets.get? id =
        some { row with lastAccess := some now }) :
      TicketStep s id ⟨fresh, .heartbeat consumer id token now⟩

theorem mem_issuedTickets {step : Step} {s : Store} {i : Nat}
    (h : i < step.call.ticketsMade (step.answer s)) :
    step.fresh.ticket i ∈ step.issuedTickets s :=
  List.mem_map_of_mem (List.mem_range.2 h)

theorem mem_issuedTokens {step : Step} {s : Store} {i : Nat}
    (h : i < step.call.tokensDrawn (step.answer s)) :
    step.fresh.token i ∈ step.issuedTokens s :=
  List.mem_map_of_mem (List.mem_range.2 h)

theorem ticketStep_publish (s : Store) (id : TicketId) (fresh : Fresh) (message : Message)
    (targets : List QueueRef) : TicketStep s id ⟨fresh, .publish message targets⟩ := by
  rcases publish_cases s fresh message targets with publishable | ⟨e, refused⟩
  · have done := publish_of_publishable publishable fresh
    have tickets : (s.after ⟨fresh, .publish message targets⟩).tickets =
        (freshTickets fresh message.id targets).foldl (fun table t => table.insert t.id t)
          s.tickets := congrArg (·.2.tickets) done
    have answer : Step.answer ⟨fresh, .publish message targets⟩ s = .ok _ :=
      congrArg Prod.fst done
    rcases get?_foldl_insert (freshTickets fresh message.id targets) s.tickets id with
      ⟨t, mem, same, found⟩ | ⟨-, found⟩
    · obtain ⟨i, below, queue, -, rfl⟩ := mem_freshTickets mem
      change fresh.ticket i = id at same
      subst same
      rw [← tickets] at found
      refine .published (mem_issuedTickets ?_) (mem_issuedTokens ?_) publishable found
      · rw [answer]
        exact below
      · rw [answer]
        exact below
    · rw [← tickets] at found
      exact .kept found
  · exact .kept (congrArg (·.2.tickets.get? id) refused)

/-- A step that writes to the row of one ticket leaves the rows of all others. -/
theorem ticketStep_of_insert {s : Store} {step : Step} {ticket : TicketId} {later : Ticket}
    (becomes : (s.after step).tickets = s.tickets.insert ticket later)
    (own : (s.after step).tickets.get? ticket = some later → TicketStep s ticket step)
    (id : TicketId) : TicketStep s id step := by
  by_cases is : ticket = id
  · subst is
    refine own ?_
    rw [becomes, Table.get?_insert_self]
  · refine .kept ?_
    rw [becomes, Table.get?_insert, if_neg (Ne.symm is)]

theorem ticketStep_tryClaim (s : Store) (id : TicketId) (fresh : Fresh) (candidate : Ticket)
    (consumer : Consumer) (timeout : Duration) (now : Instant) :
    TicketStep s id ⟨fresh, .tryClaim candidate consumer timeout now⟩ := by
  rcases tryClaim_cases s fresh candidate consumer timeout now with
    ⟨row, queue, stored, accepted⟩ | refused | lost
  · have done := tryClaim_of_accepted queue stored accepted fresh
    have answer : Step.answer ⟨fresh, .tryClaim candidate consumer timeout now⟩ s = _ :=
      congrArg Prod.fst done
    refine ticketStep_of_insert (congrArg (·.2.tickets) done) (fun becomes => ?_) id
    refine .claimed rfl queue stored accepted (mem_issuedTokens ?_) becomes
    rw [answer]
    unfold require
    split <;> exact Nat.zero_lt_one
  · exact .kept (congrArg (·.2.tickets.get? id) refused)
  · exact .kept (congrArg (·.2.tickets.get? id) lost)

theorem ticketStep_commit (s : Store) (id : TicketId) (fresh : Fresh) (consumer : Consumer)
    (ticket : TicketId) (token : ConcurrencyToken) (update : TicketUpdate) (now : Instant) :
    TicketStep s id ⟨fresh, .commit consumer ticket token update now⟩ := by
  rcases commit_cases s fresh consumer ticket token update now with
    ⟨row, valid, stored, held⟩ | ⟨e, refused⟩ | lost
  · have done : s.commit fresh consumer ticket token update now = _ :=
      commit_of_held valid stored held fresh
    have answer : Step.answer ⟨fresh, .commit consumer ticket token update now⟩ s =
        .ok (.committed (fresh.token 0)) := congrArg Prod.fst done
    refine ticketStep_of_insert (congrArg (·.2.tickets) done) (fun becomes => ?_) id
    refine .committed valid stored held (mem_issuedTokens ?_) becomes
    rw [answer]
    exact Nat.zero_lt_one
  · exact .kept (congrArg (·.2.tickets.get? id) refused)
  · exact .kept (congrArg (·.2.tickets.get? id) lost)

theorem ticketStep_heartbeat (s : Store) (id : TicketId) (fresh : Fresh) (consumer : Consumer)
    (ticket : TicketId) (token : ConcurrencyToken) (now : Instant) :
    TicketStep s id ⟨fresh, .heartbeat consumer ticket token now⟩ := by
  rcases heartbeat_cases s consumer ticket token now with ⟨row, stored, held, working⟩ | lost
  · have done : s.heartbeat consumer ticket token now = _ := heartbeat_of_held stored held working
    exact ticketStep_of_insert (congrArg (·.2.tickets) done) (.alive stored held working) id
  · exact .kept (congrArg (·.2.tickets.get? id) lost)

/-- Every step does one of these things to the row of a ticket. -/
theorem ticketStep (s : Store) (id : TicketId) (step : Step) : TicketStep s id step := by
  obtain ⟨fresh, call⟩ := step
  cases delivery : call.isDelivery with
  | false =>
    exact .kept (congrArg (·.get? id) (perform_sameDeliveries delivery s fresh).tickets)
  | true =>
    cases call with
    | publish message targets => exact ticketStep_publish s id fresh message targets
    | tryClaim candidate consumer timeout now =>
      exact ticketStep_tryClaim s id fresh candidate consumer timeout now
    | commit consumer ticket token update now =>
      exact ticketStep_commit s id fresh consumer ticket token update now
    | heartbeat consumer ticket token now =>
      exact ticketStep_heartbeat s id fresh consumer ticket token now
    | _ => cases delivery

/-- A ticket that a step brings in is a new one. -/
theorem eq_fresh_of_unknown {s : Store} {id : TicketId} {row : Ticket} {step : Step}
    (unknown : s.tickets.get? id = none) (stored : (s.after step).tickets.get? id = some row) :
    ∃ token queue message, row = .fresh id token queue message := by
  cases ticketStep s id step with
  | kept same => cases stored.symm.trans (same.trans unknown)
  | @published _ message _ queue token _ _ _ becomes =>
    exact ⟨token, queue, message.id, Option.some.inj (stored.symm.trans becomes)⟩
  | claimed _ _ found => cases unknown.symm.trans found
  | committed _ found => cases unknown.symm.trans found
  | alive found => cases unknown.symm.trans found

/-- A claim that is answered with a delivery has taken the stored row. -/
theorem claimed_step {s : Store} {fresh : Fresh} {candidate : Ticket} {consumer : Consumer}
    {timeout : Duration} {now : Instant} {delivery : Delivery}
    (answered : Step.answer ⟨fresh, .tryClaim candidate consumer timeout now⟩ s =
      .ok (.claimed delivery)) :
    ∃ row, candidate.queue = consumer.queue ∧ s.tickets.get? candidate.id = some row ∧
      row.acceptsClaim candidate.token timeout now = true ∧
      s.messages.get? row.message = some delivery.message ∧
      delivery.ticket = row.claimedBy consumer.instanceUuid (fresh.token 0) now ∧
      fresh.token 0 ∈ Step.issuedTokens ⟨fresh, .tryClaim candidate consumer timeout now⟩ s ∧
      (s.after ⟨fresh, .tryClaim candidate consumer timeout now⟩).tickets.get? candidate.id =
        some delivery.ticket := by
  obtain ⟨row, queue, stored, accepted, message, taken⟩ := accepted_of_claimed answered
  have becomes : (s.after ⟨fresh, .tryClaim candidate consumer timeout now⟩).tickets.get?
      candidate.id = some (row.claimedBy consumer.instanceUuid (fresh.token 0) now) :=
    (congrArg (·.2.tickets.get? candidate.id)
      (tryClaim_of_accepted queue stored accepted fresh)).trans (Table.get?_insert_self _ _ _)
  refine ⟨row, queue, stored, accepted, message, taken, mem_issuedTokens ?_, ?_⟩
  · rw [answered]
    exact Nat.zero_lt_one
  · rw [taken]
    exact becomes

/-- A commit that is answered with a token has written to the row of the holder. -/
theorem committed_step {s : Store} {fresh : Fresh} {consumer : Consumer} {ticket : TicketId}
    {token next : ConcurrencyToken} {update : TicketUpdate} {now : Instant}
    (answered : Step.answer ⟨fresh, .commit consumer ticket token update now⟩ s =
      .ok (.committed next)) :
    ∃ row, TicketState.inProgress.canMoveTo update.state = true ∧
      s.tickets.get? ticket = some row ∧ row.isHeldBy consumer token = true ∧
      next = fresh.token 0 ∧
      next ∈ Step.issuedTokens ⟨fresh, .commit consumer ticket token update now⟩ s ∧
      (s.after ⟨fresh, .commit consumer ticket token update now⟩).tickets.get? ticket =
        some (row.updated update next now) := by
  rcases commit_cases s fresh consumer ticket token update now with
    ⟨row, valid, stored, held⟩ | ⟨e, refused⟩ | lost
  · have done : s.commit fresh consumer ticket token update now = _ :=
      commit_of_held valid stored held fresh
    cases answered.symm.trans (congrArg Prod.fst done)
    refine ⟨row, valid, stored, held, rfl, mem_issuedTokens ?_, ?_⟩
    · rw [answered]
      exact Nat.zero_lt_one
    · exact (congrArg (·.2.tickets.get? ticket) done).trans (Table.get?_insert_self _ _ _)
  · cases answered.symm.trans (congrArg Prod.fst refused)
  · cases answered.symm.trans (congrArg Prod.fst lost)

/-! What every step keeps. -/

/-- A later row of the same ticket. One that was never owned is still the row that was published. -/
structure Follows (row later : Ticket) : Prop where
  id : later.id = row.id
  queue : later.queue = row.queue
  message : later.message = row.message
  unowned : later.owner = none → later = row

theorem Follows.refl (row : Ticket) : Follows row row := ⟨rfl, rfl, rfl, fun _ => rfl⟩

theorem Follows.trans {a b c : Ticket} (h : Follows a b) (k : Follows b c) : Follows a c where
  id := k.id.trans h.id
  queue := k.queue.trans h.queue
  message := k.message.trans h.message
  unowned free := by
    have same := k.unowned free
    subst same
    exact h.unowned free

theorem owner_of_isHeldBy {row : Ticket} {consumer : Consumer} {token : ConcurrencyToken}
    (h : row.isHeldBy consumer token = true) : row.owner = some consumer.instanceUuid := by
  simp only [Ticket.isHeldBy, Bool.and_eq_true, beq_iff_eq] at h
  exact h.2

theorem owned_of_isHeldBy {row : Ticket} {consumer : Consumer} {token : ConcurrencyToken}
    (h : row.isHeldBy consumer token = true) : row.owner ≠ none := by
  rw [owner_of_isHeldBy h]
  exact Option.some_ne_none _

theorem queue_of_isHeldBy {row : Ticket} {consumer : Consumer} {token : ConcurrencyToken}
    (h : row.isHeldBy consumer token = true) : row.queue = consumer.queue := by
  simp only [Ticket.isHeldBy, Bool.and_eq_true, beq_iff_eq] at h
  exact h.1.1

theorem token_of_isHeldBy {row : Ticket} {consumer : Consumer} {token : ConcurrencyToken}
    (h : row.isHeldBy consumer token = true) : row.token = token := by
  simp only [Ticket.isHeldBy, Bool.and_eq_true, beq_iff_eq] at h
  exact h.1.2

/-- A ticket whose identifier is not given out again stays the ticket that it is. -/
theorem follows_after {s : Store} {id : TicketId} {row : Ticket} {step : Step}
    (stored : s.tickets.get? id = some row) (once : id ∉ step.issuedTickets s) :
    ∃ later, (s.after step).tickets.get? id = some later ∧ Follows row later := by
  cases ticketStep s id step with
  | kept same => exact ⟨row, same.trans stored, .refl row⟩
  | published issued => exact absurd issued once
  | claimed _ _ found _ _ becomes =>
    cases stored.symm.trans found
    exact ⟨_, becomes, rfl, rfl, rfl, fun free => by cases free⟩
  | committed _ found held _ becomes =>
    cases stored.symm.trans found
    refine ⟨_, becomes, rfl, rfl, rfl, fun free => ?_⟩
    exact (owned_of_isHeldBy held free).elim
  | alive found held _ becomes =>
    cases stored.symm.trans found
    refine ⟨_, becomes, rfl, rfl, rfl, fun free => ?_⟩
    exact (owned_of_isHeldBy held free).elim

theorem follows_run {s : Store} {id : TicketId} {row : Ticket} {steps : List Step}
    (stored : s.tickets.get? id = some row) (once : id ∉ s.issuedTickets steps) :
    ∃ later, (s.run steps).tickets.get? id = some later ∧ Follows row later := by
  induction steps generalizing s row with
  | nil => exact ⟨row, stored, .refl row⟩
  | cons step steps ih =>
    rw [issuedTickets, List.mem_append, not_or] at once
    obtain ⟨next, found, first⟩ := follows_after stored once.1
    obtain ⟨later, last, rest⟩ := ih found once.2
    exact ⟨later, last, first.trans rest⟩

/-- Messages never change and never go. -/
theorem message_after {s : Store} {id : MessageId} {message : Message}
    (stored : s.messages.get? id = some message) (step : Step) :
    (s.after step).messages.get? id = some message := by
  rw [after]
  rcases messages_after s step.fresh step.call with
    same | ⟨published, targets, -, publishable, becomes⟩
  · rw [same]
    exact stored
  · have other : id ≠ published.id := by
      rintro rfl
      exact absurd (publishable.new.symm.trans stored) (by simp)
    rw [becomes, Table.get?_insert, if_neg other]
    exact stored

theorem message_run {s : Store} {id : MessageId} {message : Message}
    (stored : s.messages.get? id = some message) (steps : List Step) :
    (s.run steps).messages.get? id = some message :=
  run_keeps (P := fun s => s.messages.get? id = some message)
    (fun _ step h => message_after h step) stored steps

/-- Every ticket is of a message that is stored. -/
def Referenced (s : Store) : Prop :=
  ∀ id row, s.tickets.get? id = some row → ∃ message, s.messages.get? row.message = some message

theorem Referenced.after {s : Store} (h : Referenced s) (step : Step) :
    Referenced (s.after step) := by
  intro id row stored
  have kept : ∀ row : Ticket, s.tickets.get? id = some row →
      ∃ message, (s.after step).messages.get? row.message = some message := by
    intro row stored
    obtain ⟨message, there⟩ := h id row stored
    exact ⟨message, message_after there step⟩
  cases ticketStep s id step with
  | kept same => exact kept row (same.symm.trans stored)
  | @published fresh message targets _ _ _ _ publishable becomes =>
    cases stored.symm.trans becomes
    have done := publish_of_publishable publishable fresh
    refine ⟨message, ?_⟩
    exact (congrArg (·.2.messages.get? message.id) done).trans (Table.get?_insert_self _ _ _)
  | claimed _ _ found _ _ becomes =>
    cases stored.symm.trans becomes
    have there := kept _ found
    exact there
  | committed _ found _ _ becomes =>
    cases stored.symm.trans becomes
    have there := kept _ found
    exact there
  | alive found _ _ becomes =>
    cases stored.symm.trans becomes
    have there := kept _ found
    exact there

theorem referenced_run (steps : List Step) : Referenced (run .empty steps) := by
  have new : Referenced .empty := fun _ _ stored => by cases stored
  exact run_keeps (fun _ step h => h.after step) new steps

/-! What is stored was given out. -/

/-- Every ticket stands under its own identifier; that and its token are among those given out. -/
def GivenOut (ids : List TicketId) (tokens : List ConcurrencyToken) (s : Store) : Prop :=
  ∀ id row, s.tickets.get? id = some row → row.id = id ∧ id ∈ ids ∧ row.token ∈ tokens

theorem GivenOut.after {ids : List TicketId} {tokens : List ConcurrencyToken} {s : Store}
    (h : GivenOut ids tokens s) (step : Step) :
    GivenOut (ids ++ step.issuedTickets s) (tokens ++ step.issuedTokens s) (s.after step) := by
  intro id row stored
  simp only [List.mem_append]
  cases ticketStep s id step with
  | kept same =>
    obtain ⟨own, known, drawn⟩ := h id row (same.symm.trans stored)
    exact ⟨own, .inl known, .inl drawn⟩
  | published issued drawn _ becomes =>
    cases stored.symm.trans becomes
    exact ⟨rfl, .inr issued, .inr drawn⟩
  | claimed _ _ found _ drawn becomes =>
    cases stored.symm.trans becomes
    obtain ⟨own, known, -⟩ := h id _ found
    exact ⟨own, .inl known, .inr drawn⟩
  | committed _ found _ drawn becomes =>
    cases stored.symm.trans becomes
    obtain ⟨own, known, -⟩ := h id _ found
    exact ⟨own, .inl known, .inr drawn⟩
  | alive found _ _ becomes =>
    cases stored.symm.trans becomes
    obtain ⟨own, known, drawn⟩ := h id _ found
    exact ⟨own, .inl known, .inl drawn⟩

theorem GivenOut.run {ids : List TicketId} {tokens : List ConcurrencyToken} {s : Store}
    (h : GivenOut ids tokens s) (steps : List Step) :
    GivenOut (ids ++ s.issuedTickets steps) (tokens ++ s.issuedTokens steps) (s.run steps) := by
  induction steps generalizing ids tokens s with
  | nil => simpa [issuedTickets, issuedTokens] using h
  | cons step steps ih =>
    have rest := ih (h.after step)
    rwa [List.append_assoc, List.append_assoc] at rest

/-- After every run of a new store. -/
theorem givenOut_run (steps : List Step) :
    GivenOut (issuedTickets .empty steps) (issuedTokens .empty steps) (run .empty steps) := by
  have new : GivenOut [] [] .empty := fun _ _ stored => by cases stored
  exact new.run steps

end MessageBus.Store
