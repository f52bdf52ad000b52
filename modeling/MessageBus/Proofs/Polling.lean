import MessageBus.Proofs.Catalog
import MessageBus.Proofs.Claimability
import MessageBus.Proofs.Order

/-! The next ticket of a queue. The live tickets stand in an order without ties, so that their list is
known by its members. While nobody else acts, a poll takes what it selects: the claim of a selected
ticket is neither lost nor refused. -/
namespace MessageBus

namespace Delivery
variable {a b : Delivery}

theorem precedes_asymm (h : a.precedes b) : ¬ b.precedes a := by
  simp only [precedes_iff] at *
  omega

theorem ne_of_precedes (h : a.precedes b) : a ≠ b := by
  rintro rfl
  exact precedes_asymm h h

/-- Lists in the order of a queue are the same once they have the same members. -/
theorem eq_of_ascending {xs ys : List Delivery} (first : xs.Pairwise precedes)
    (second : ys.Pairwise precedes) (members : ∀ d, d ∈ xs ↔ d ∈ ys) : xs = ys := by
  have perm : xs.Perm ys :=
    (List.perm_ext_iff_of_nodup (first.imp ne_of_precedes) (second.imp ne_of_precedes)).2 members
  exact perm.eq_of_pairwise (fun _ _ _ _ order back => absurd back (precedes_asymm order)) first second

end Delivery

namespace Store

theorem keyed_tickets_run (steps : List Step) : Keyed Ticket.id (run .empty steps).tickets :=
  fun id row stored => (givenOut_run steps id row stored).1

section
variable {s : Store} {queue : QueueRef} {now : Instant}

theorem mem_liveTickets_iff_queued (keyed : Keyed Ticket.id s.tickets) {d : Delivery} :
    d ∈ s.liveTickets queue now ↔ Queued s queue d ∧ d.ticket.state.isTerminal = false ∧
      d.message.isExpired now = false := by
  rw [mem_liveTickets_iff]
  constructor
  · rintro ⟨⟨id, stored⟩, own, live, message, unexpired⟩
    cases keyed id _ stored
    exact ⟨⟨stored, message, own⟩, live, unexpired⟩
  · rintro ⟨⟨stored, message, own⟩, live, unexpired⟩
    exact ⟨⟨_, stored⟩, own, live, message, unexpired⟩

theorem distinct_liveTickets (keyed : Keyed Ticket.id s.tickets) :
    (s.liveTickets queue now).Pairwise fun a b => a.ticket.id ≠ b.ticket.id := by
  refine (List.mergeSort_perm _ _).pairwise_iff (fun other => other.symm) |>.2 ?_
  refine List.Pairwise.filter _ (List.Pairwise.filterMap _ ?_
    (List.pairwise_map.1 (keyed.nodup_map_filter _)))
  intro t u other d found e also
  obtain ⟨_, -, rfl⟩ := Option.map_eq_some_iff.1 found
  obtain ⟨_, -, rfl⟩ := Option.map_eq_some_iff.1 also
  exact other

/-- Live tickets come one after another, no two at the same place. -/
theorem ascending_liveTickets (keyed : Keyed Ticket.id s.tickets) :
    (s.liveTickets queue now).Pairwise Delivery.precedes := by
  have sorted : (s.liveTickets queue now).Pairwise fun a b => claimsBefore a b = true :=
    List.pairwise_mergeSort claimsBefore_trans claimsBefore_total _
  refine (sorted.and (distinct_liveTickets keyed)).imp fun {a b} h => ?_
  exact (Delivery.precedes_or_precedes h.2).resolve_right (claimsBefore_eq_true_iff.1 h.1)

end

/-! A poll as one operation. -/

/-- Selects the next ticket and claims it at once. -/
def takeNext (s : Store) (fresh : Fresh) (consumer : Consumer) (policy : DeliveryPolicy)
    (eligible : List TicketState) (now : Instant) : Result ClaimOutcome :=
  match s.findNext policy.fifo consumer.queue eligible policy.processingTimeout now with
  | none => (.ok .empty, s)
  | some candidate => s.tryClaim fresh candidate consumer policy.processingTimeout now

section
variable {s : Store} {first fresh : Fresh} {consumer : Consumer} {policy : DeliveryPolicy}
variable {eligible : List TicketState} {now : Instant}

/-- The calls of such a poll. -/
def pollSteps (s : Store) (first fresh : Fresh) (consumer : Consumer) (policy : DeliveryPolicy)
    (eligible : List TicketState) (now : Instant) : List Step :=
  ⟨first, selection consumer policy eligible now⟩ ::
    ((s.findNext policy.fifo consumer.queue eligible policy.processingTimeout now).map fun t =>
      ⟨fresh, .tryClaim t consumer policy.processingTimeout now⟩).toList

theorem after_selection :
    s.after ⟨first, selection consumer policy eligible now⟩ = s := by
  unfold selection
  split <;> rfl

theorem takeNext_of_none
    (none : s.findNext policy.fifo consumer.queue eligible policy.processingTimeout now = none) :
    s.takeNext fresh consumer policy eligible now = (.ok .empty, s) := by
  rw [takeNext, none]

theorem takeNext_of_some {t : Ticket}
    (found : s.findNext policy.fifo consumer.queue eligible policy.processingTimeout now = some t) :
    s.takeNext fresh consumer policy eligible now =
      s.tryClaim fresh t consumer policy.processingTimeout now := by
  rw [takeNext, found]

/-- This is what a claim of the next ticket comes to when nobody else acts meanwhile. -/
theorem runs_claimNext_alone {η : Type} (s : Store) (first fresh : Fresh) (consumer : Consumer)
    (policy : DeliveryPolicy) (eligible : List TicketState) (now : Instant) :
    Routine.Runs (Routine.claimNext consumer policy eligible now : StoreRoutine η ClaimOutcome).run s
      (s.pollSteps first fresh consumer policy eligible now)
      (s.takeNext fresh consumer policy eligible now).1 := by
  have claims : Routine.Runs (claimFound consumer policy.processingTimeout now
        (.ok (s.findNext policy.fifo consumer.queue eligible policy.processingTimeout now)) :
        Routine η _) s
      ((s.findNext policy.fifo consumer.queue eligible policy.processingTimeout now).map fun t =>
        (⟨fresh, .tryClaim t consumer policy.processingTimeout now⟩ : Step)).toList
      (s.takeNext fresh consumer policy eligible now).1 := by
    unfold takeNext
    cases s.findNext policy.fifo consumer.queue eligible policy.processingTimeout now with
    | none => exact .done
    | some t => exact Routine.Runs.asked (.attempt fresh) .done
  exact runs_claimNext_of_claimFound claims

theorem run_pollSteps (s : Store) (first fresh : Fresh) (consumer : Consumer)
    (policy : DeliveryPolicy) (eligible : List TicketState) (now : Instant) :
    s.run (s.pollSteps first fresh consumer policy eligible now) =
      (s.takeNext fresh consumer policy eligible now).2 := by
  rw [pollSteps, run_cons, after_selection, takeNext]
  cases s.findNext policy.fifo consumer.queue eligible policy.processingTimeout now with
  | none => rfl
  | some t => rfl

/-- In a store whose tickets stand under their own identifiers, with their messages, such a poll
either finds nothing to hand out or hands out what it has selected. -/
theorem takeNext_cases (keyed : Keyed Ticket.id s.tickets) (fresh : Fresh) (consumer : Consumer)
    (policy : DeliveryPolicy) (eligible : List TicketState) (now : Instant) :
    s.findNext policy.fifo consumer.queue eligible policy.processingTimeout now = none ∧
      s.takeNext fresh consumer policy eligible now = (.ok .empty, s) ∨
    ∃ d, s.findNext policy.fifo consumer.queue eligible policy.processingTimeout now =
        some d.ticket ∧
      Selectable s consumer.queue eligible policy.processingTimeout now d ∧
      s.takeNext fresh consumer policy eligible now =
        (.ok (.claimed ⟨d.ticket.claimedBy consumer.instanceUuid (fresh.token 0) now, d.message⟩),
          { s with
            tickets := s.tickets.insert d.ticket.id
              (d.ticket.claimedBy consumer.instanceUuid (fresh.token 0) now) }) := by
  cases found : s.findNext policy.fifo consumer.queue eligible policy.processingTimeout now with
  | none => exact .inl ⟨rfl, takeNext_of_none found⟩
  | some t =>
    obtain ⟨message, selectable⟩ := selectable_of_findNext keyed found
    have accepted := Ticket.acceptsClaim_of_isClaimable selectable.claimable selectable.live
    refine .inr ⟨⟨t, message⟩, rfl, selectable, ?_⟩
    rw [takeNext_of_some found, tryClaim_of_accepted selectable.queue selectable.stored accepted,
      require_eq_ok_iff.2 selectable.message]
    rfl

end

end Store
end MessageBus
