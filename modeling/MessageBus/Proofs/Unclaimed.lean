import MessageBus.Proofs.TicketStep

/-! Tickets that nobody has claimed yet. They have no owner, no access and the state they were
published with, and any one of these tells them from all others. A claim is the only way out, and
there is no way back. -/
namespace MessageBus.Store

/-- A row that tells in each of three columns whether its ticket was ever claimed. -/
structure Recognisable (row : Ticket) : Prop where
  state : row.state = .ready ↔ row.owner = none
  lastAccess : row.lastAccess = none ↔ row.owner = none
  blank : row.owner = none → row.retryCount = 0 ∧ row.snapshot = none ∧ row.delayedTo = none

theorem recognisable_fresh (id : TicketId) (token : ConcurrencyToken) (queue : QueueRef)
    (message : MessageId) : Recognisable (.fresh id token queue message) where
  state := ⟨fun _ => rfl, fun _ => rfl⟩
  lastAccess := ⟨fun _ => rfl, fun _ => rfl⟩
  blank _ := ⟨rfl, rfl, rfl⟩

/-- A row that was claimed and then written to. -/
theorem recognisable_of_owned {row : Ticket} (owned : row.owner ≠ none)
    (begun : row.state ≠ .ready) (accessed : row.lastAccess ≠ none) : Recognisable row where
  state := iff_of_false begun owned
  lastAccess := iff_of_false accessed owned
  blank free := absurd free owned

theorem recognisable_after {s : Store} {id : TicketId}
    (h : ∀ row, s.tickets.get? id = some row → Recognisable row) (step : Step) {row : Ticket}
    (stored : (s.after step).tickets.get? id = some row) : Recognisable row := by
  cases ticketStep s id step with
  | kept same => exact h row (same.symm.trans stored)
  | published _ _ _ becomes =>
    cases stored.symm.trans becomes
    exact recognisable_fresh _ _ _ _
  | claimed _ _ _ _ _ becomes =>
    cases stored.symm.trans becomes
    exact recognisable_of_owned (Option.some_ne_none _) TicketState.noConfusion
      (Option.some_ne_none _)
  | @committed _ _ _ update _ before valid _ held _ becomes =>
    cases stored.symm.trans becomes
    -- A ticket in progress moves to every state but this one.
    have begun : update.state ≠ .ready := by
      intro ready
      rw [ready] at valid
      cases valid
    have owned : before.owner ≠ none := owned_of_isHeldBy held
    exact recognisable_of_owned owned begun (Option.some_ne_none _)
  | @alive _ _ _ _ before _ held working becomes =>
    cases stored.symm.trans becomes
    have owned : before.owner ≠ none := owned_of_isHeldBy held
    have begun : before.state ≠ .ready := by
      rw [working]
      exact TicketState.noConfusion
    exact recognisable_of_owned owned begun (Option.some_ne_none _)

theorem recognisable_run (steps : List Step) {id : TicketId} {row : Ticket}
    (stored : (run .empty steps).tickets.get? id = some row) : Recognisable row := by
  refine run_keeps (P := fun s => ∀ row, s.tickets.get? id = some row → Recognisable row) ?_ ?_
    steps row stored
  · intro s step h row stored
    exact recognisable_after h step stored
  · intro row stored
    cases stored

/-- A step by which a consumer becomes the owner of the ticket. -/
def ClaimsTicket (s : Store) (step : Step) (later : Ticket) : Prop :=
  ∃ fresh candidate consumer timeout now message,
    step = ⟨fresh, .tryClaim candidate consumer timeout now⟩ ∧
    (s.tryClaim fresh candidate consumer timeout now).1 = .ok (.claimed ⟨later, message⟩) ∧
    later.owner = some consumer.instanceUuid

theorem claimsTicket_of_owner_ne {s : Store} (referenced : Referenced s) {id : TicketId}
    {row later : Ticket} {step : Step} (stored : s.tickets.get? id = some row)
    (once : id ∉ step.issuedTickets s)
    (becomes : (s.after step).tickets.get? id = some later) (other : later.owner ≠ row.owner) :
    ClaimsTicket s step later := by
  cases ticketStep s id step with
  | kept same =>
    cases stored.symm.trans (same.symm.trans becomes)
    exact absurd rfl other
  | published issued => exact absurd issued once
  | @claimed fresh candidate consumer timeout now claimed is queue found accepted _ written =>
    cases becomes.symm.trans written
    obtain ⟨message, there⟩ := referenced id claimed found
    refine ⟨fresh, candidate, consumer, timeout, now, message, rfl, ?_, rfl⟩
    rw [tryClaim_of_accepted queue (is ▸ found) accepted, require_eq_ok_iff.2 there]
    rfl
  | committed _ found _ _ written =>
    cases stored.symm.trans found
    cases becomes.symm.trans written
    exact absurd rfl other
  | alive found _ _ written =>
    cases stored.symm.trans found
    cases becomes.symm.trans written
    exact absurd rfl other

/-- A ticket that was never claimed is recognised by its state, its owner and its last access alike,
and then carries nothing; one that was claimed stays so, and only a claim that goes through changes
its owner. -/
theorem unclaimed_recognised (steps : List Step) {id : TicketId} {row : Ticket}
    (stored : (run .empty steps).tickets.get? id = some row) :
    Recognisable row ∧
    (∀ more, id ∉ (run .empty steps).issuedTickets more →
      ∃ later, (run .empty (steps ++ more)).tickets.get? id = some later ∧
        (row.owner ≠ none → later.owner ≠ none ∧ later.state ≠ .ready)) ∧
    (∀ step, id ∉ step.issuedTickets (run .empty steps) →
      ∃ later, ((run .empty steps).after step).tickets.get? id = some later ∧
        (later.owner ≠ row.owner → ClaimsTicket (run .empty steps) step later)) := by
  refine ⟨recognisable_run steps stored, fun more once => ?_, fun step once => ?_⟩
  · obtain ⟨later, becomes, follows⟩ := follows_run stored once
    rw [← run_append] at becomes
    have recognised := recognisable_run (steps ++ more) becomes
    refine ⟨later, becomes, fun owned => ?_⟩
    have stays : later.owner ≠ none := fun free => owned (follows.unowned free ▸ free)
    exact ⟨stays, fun ready => stays (recognised.state.1 ready)⟩
  · obtain ⟨later, becomes, -⟩ := follows_after stored once
    exact ⟨later, becomes, claimsTicket_of_owner_ne (referenced_run steps) stored once becomes⟩

/-- The ticket of one message, and its first claim. -/
theorem unclaimed_recognised_oneTicket :
    Recognisable ticketAtFirst ∧
      ClaimsTicket (run .empty oneTicket) firstClaim
        (ticketAtFirst.claimedBy runner.instanceUuid ⟨.ofNat 2000⟩ default) := by
  have stored : (run .empty oneTicket).tickets.get? ⟨.ofNat 1000⟩ = some ticketAtFirst := by
    decide +kernel
  have claimed : ((run .empty oneTicket).after firstClaim).tickets.get? ⟨.ofNat 1000⟩ =
      some (ticketAtFirst.claimedBy runner.instanceUuid ⟨.ofNat 2000⟩ default) := by
    decide +kernel
  obtain ⟨recognised, -, claims⟩ := unclaimed_recognised oneTicket stored
  obtain ⟨later, becomes, changes⟩ := claims firstClaim (by decide +kernel)
  cases becomes.symm.trans claimed
  exact ⟨recognised, changes (Option.some_ne_none _)⟩

end MessageBus.Store
