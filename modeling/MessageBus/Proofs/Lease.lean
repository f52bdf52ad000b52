import MessageBus.Proofs.TicketStep

/-! The lease of a claim. While the claim's timeout has not strictly passed since the last sign of
life, no other party can take the ticket or write to it, and the holder's commit goes through. -/
namespace MessageBus.Store

/-- A ticket in progress, held by an instance under a token and last seen at work at an instant. -/
structure Leased (row : Ticket) (holder : Uuid) (token : ConcurrencyToken) (seen : Instant) :
    Prop where
  working : row.state = .inProgress
  owner : row.owner = some holder
  token : row.token = token
  lastAccess : row.lastAccess = some seen

/-- A call that does not end a lease: it does not write under it, and a claim of the ticket has a
cutoff that the last sign of life does not lie before. -/
def Call.Spares (id : TicketId) (holder : Uuid) (token : ConcurrencyToken) (seen : Instant) :
    Call → Prop
  | .tryClaim candidate _ timeout now => candidate.id = id → reclaimCutoff now timeout ≤ seen
  | .commit consumer ticket shown _ _ | .heartbeat consumer ticket shown _ =>
    ¬ (ticket = id ∧ shown = token ∧ consumer.instanceUuid = holder)
  | _ => True

section
variable {row : Ticket} {holder : Uuid} {token : ConcurrencyToken} {seen now : Instant}
variable {timeout : Duration}

theorem Leased.isHeldBy (h : Leased row holder token seen) {consumer : Consumer}
    (queue : consumer.queue = row.queue) (same : consumer.instanceUuid = holder) :
    row.isHeldBy consumer token = true := by
  simp [Ticket.isHeldBy, h.token, h.owner, queue, same]

theorem Leased.isStale_eq_true_iff (h : Leased row holder token seen) :
    row.isStale timeout now = true ↔ seen < reclaimCutoff now timeout := by
  simp [Ticket.isStale, h.working, h.lastAccess]

/-- A claim takes a leased ticket only if the last sign of life lies before its cutoff. -/
theorem Leased.lt_of_acceptsClaim (h : Leased row holder token seen) {observed : ConcurrencyToken}
    (accepted : row.acceptsClaim observed timeout now = true) :
    seen < reclaimCutoff now timeout := by
  obtain ⟨-, -, idle | stale⟩ := acceptsClaim_eq_true_iff.1 accepted
  · exact absurd h.working idle
  · exact h.isStale_eq_true_iff.1 stale

/-- A cutoff past any instant is a real one, not the first instant of the range. -/
theorem earlier?_of_lt_reclaimCutoff (h : seen < reclaimCutoff now timeout) :
    ∃ cutoff, now.earlier? timeout = some cutoff ∧ seen < cutoff := by
  unfold reclaimCutoff at h
  cases found : now.earlier? timeout with
  | some cutoff =>
    rw [found] at h
    exact ⟨cutoff, rfl, h⟩
  | none =>
    rw [found] at h
    exact absurd (Instant.first_le seen) (Int.not_le.2 h)

/-- Outside leap seconds more than the timeout lies between the two instants. -/
theorem timeout_lt_of_lt_cutoff {cutoff : Instant} (found : now.earlier? timeout = some cutoff)
    (h : seen < cutoff) (seen_regular : ¬ seen.isLeap) (now_regular : ¬ now.isLeap) :
    seen.nanos + timeout.nanos < now.nanos := by
  obtain ⟨-, regular, moved⟩ := (Instant.earlier?_eq_some_iff now_regular).1 found
  have before := (Instant.lt_iff_nanos_lt seen_regular regular).1 h
  omega

end

section
variable {s : Store} {id : TicketId} {row : Ticket} {holder : Uuid} {token : ConcurrencyToken}
variable {seen : Instant}

/-- A step that spares the lease leaves the row as it is. -/
theorem Leased.after (h : Leased row holder token seen) (stored : s.tickets.get? id = some row)
    {step : Step} (once : id ∉ step.issuedTickets s)
    (spares : step.call.Spares id holder token seen) :
    (s.after step).tickets.get? id = some row := by
  have heldUnder : ∀ {consumer : Consumer} {shown : ConcurrencyToken},
      row.isHeldBy consumer shown = true → shown = token ∧ consumer.instanceUuid = holder := by
    intro consumer shown held
    refine ⟨(token_of_isHeldBy held).symm.trans h.token, ?_⟩
    exact Option.some.inj ((owner_of_isHeldBy held).symm.trans h.owner)
  cases ticketStep s id step with
  | kept same => exact same.trans stored
  | published issued => exact absurd issued once
  | claimed is _ found accepted _ _ =>
    cases stored.symm.trans found
    exact absurd (spares is) (Int.not_le.2 (h.lt_of_acceptsClaim accepted))
  | committed _ found held _ _ =>
    cases stored.symm.trans found
    exact absurd ⟨rfl, heldUnder held⟩ spares
  | alive found held _ _ =>
    cases stored.symm.trans found
    exact absurd ⟨rfl, heldUnder held⟩ spares

theorem Leased.run (h : Leased row holder token seen) (stored : s.tickets.get? id = some row)
    {steps : List Step} (once : id ∉ s.issuedTickets steps)
    (spares : ∀ step ∈ steps, step.call.Spares id holder token seen) :
    (s.run steps).tickets.get? id = some row := by
  induction steps generalizing s with
  | nil => exact stored
  | cons step steps ih =>
    rw [issuedTickets, List.mem_append, not_or] at once
    have next := h.after stored once.1 (spares step List.mem_cons_self)
    exact ih next once.2 fun later mem => spares later (List.mem_cons_of_mem _ mem)

/-- What a lease gives to its holder and denies to everyone else. -/
structure Secured (s : Store) (id : TicketId) (row : Ticket) (holder : Uuid)
    (token : ConcurrencyToken) (seen : Instant) : Prop where
  stored : s.tickets.get? id = some row
  commit : ∀ fresh consumer update now, consumer.queue = row.queue →
    consumer.instanceUuid = holder → TicketState.inProgress.canMoveTo update.state = true →
    (s.commit fresh consumer id token update now).1 = .ok (.committed (fresh.token 0))
  claim : ∀ fresh (candidate : Ticket) consumer timeout now, candidate.id = id →
    reclaimCutoff now timeout ≤ seen →
    s.tryClaim fresh candidate consumer timeout now =
      if candidate.queue = consumer.queue then (.ok (.lost id), s)
      else (.error (wrongQueue candidate consumer), s)
  /-- A claim takes the ticket only after the timeout, counted back from the time of the claim. -/
  taken : ∀ fresh (candidate : Ticket) consumer timeout now delivery, candidate.id = id →
    (s.tryClaim fresh candidate consumer timeout now).1 = .ok (.claimed delivery) →
    ∃ cutoff, now.earlier? timeout = some cutoff ∧ seen < cutoff ∧
      (¬ seen.isLeap → ¬ now.isLeap → seen.nanos + timeout.nanos < now.nanos)

theorem Leased.secured (h : Leased row holder token seen) (stored : s.tickets.get? id = some row) :
    Secured s id row holder token seen where
  stored := stored
  commit fresh consumer update now queue same valid := by
    rw [commit_of_held valid stored (h.isHeldBy queue same) fresh]
  claim fresh candidate consumer timeout now is recent := by
    subst is
    split
    · next queue =>
      refine tryClaim_of_refused queue stored ?_ fresh
      cases accepted : row.acceptsClaim candidate.token timeout now with
      | false => rfl
      | true => exact absurd (h.lt_of_acceptsClaim accepted) (Int.not_lt.2 recent)
    · next queue => exact tryClaim_of_wrongQueue queue fresh
  taken fresh candidate consumer timeout now delivery is answered := by
    subst is
    obtain ⟨_, -, found, accepted, -⟩ := accepted_of_claimed answered
    cases stored.symm.trans found
    obtain ⟨cutoff, real, after⟩ := earlier?_of_lt_reclaimCutoff (h.lt_of_acceptsClaim accepted)
    exact ⟨cutoff, real, after, timeout_lt_of_lt_cutoff real after⟩

/-- The lease holds through all traffic that spares it. -/
theorem lease_holds (lease : Leased row holder token seen) (stored : s.tickets.get? id = some row)
    {steps : List Step} (once : id ∉ s.issuedTickets steps)
    (spares : ∀ step ∈ steps, step.call.Spares id holder token seen) :
    Secured (s.run steps) id row holder token seen :=
  lease.secured (lease.run stored once spares)

end

/-- What the other instance tries while the first one works on the ticket. -/
def rivalry : List Step := [
  ⟨freshFrom 3000, .tryClaim ticketAtFirst otherRunner (.ofSecs 30) default⟩,
  ⟨freshFrom 4000, .commit otherRunner ticketAtFirst.id ⟨.ofNat 2000⟩
    ⟨.completed, 0, none, none⟩ default⟩]

theorem lease_holds_rivalry :
    let s := run .empty (oneTicket ++ [firstClaim])
    let row := ticketAtFirst.claimedBy runner.instanceUuid ⟨.ofNat 2000⟩ default
    Leased row runner.instanceUuid ⟨.ofNat 2000⟩ default ∧
    s.tickets.get? ticketAtFirst.id = some row ∧ ticketAtFirst.id ∉ s.issuedTickets rivalry ∧
    (∀ step ∈ rivalry,
      step.call.Spares ticketAtFirst.id runner.instanceUuid ⟨.ofNat 2000⟩ default) ∧
    Secured (s.run rivalry) ticketAtFirst.id row runner.instanceUuid ⟨.ofNat 2000⟩ default := by
  intro s row
  have lease : Leased row runner.instanceUuid ⟨.ofNat 2000⟩ default := ⟨rfl, rfl, rfl, rfl⟩
  have stored : s.tickets.get? ticketAtFirst.id = some row := by decide +kernel
  have once : ticketAtFirst.id ∉ s.issuedTickets rivalry := by decide +kernel
  have spares : ∀ step ∈ rivalry,
      step.call.Spares ticketAtFirst.id runner.instanceUuid ⟨.ofNat 2000⟩ default := by
    intro step mem
    rcases List.mem_cons.1 mem with rfl | mem
    · intro _
      decide +kernel
    · rw [List.mem_singleton.1 mem]
      rintro ⟨-, -, same⟩
      exact absurd same (by decide)
  exact ⟨lease, stored, once, spares, lease_holds lease stored once spares⟩

end MessageBus.Store
