import MessageBus.Proofs.Finality
import MessageBus.Proofs.Selection

/-! Queues that are served in order. A poll of such a queue looks at its first live ticket alone, so
that all tickets before the one it hands out were done, or expired, when it was selected. Commits
under claims leave what is done as it is, and so the same holds when the ticket is claimed. -/
namespace MessageBus

namespace Delivery

/-- The order of a queue: by the time of the message, and by identifier where that is the same. -/
def precedes (a b : Delivery) : Prop :=
  a.message.created < b.message.created ∨
    (a.message.created = b.message.created ∧ a.ticket.id.uuid < b.ticket.id.uuid)

variable {a b : Delivery}

/-- The order in numbers. -/
theorem precedes_iff : a.precedes b ↔
    a.message.created.position < b.message.created.position ∨
      (a.message.created.position = b.message.created.position ∧
        a.ticket.id.uuid.bits.toNat < b.ticket.id.uuid.bits.toNat) :=
  or_congr Iff.rfl (and_congr ⟨congrArg _, Instant.ext⟩ Iff.rfl)

/-- It depends on identifiers and messages alone. -/
theorem precedes.congr {a' b' : Delivery} (h : a.precedes b)
    (left : a'.ticket.id = a.ticket.id ∧ a'.message = a.message)
    (right : b'.ticket.id = b.ticket.id ∧ b'.message = b.message) : a'.precedes b' := by
  unfold precedes at *
  rwa [left.1, left.2, right.1, right.2]

theorem precedes_or_precedes (other : a.ticket.id ≠ b.ticket.id) :
    a.precedes b ∨ b.precedes a := by
  have ids : a.ticket.id.uuid.bits.toNat ≠ b.ticket.id.uuid.bits.toNat := by
    intro same
    exact other (congrArg Key.mk (congrArg Uuid.mk (BitVec.eq_of_toNat_eq same)))
  simp only [precedes_iff]
  omega

end Delivery

namespace Store

theorem claimsBefore_eq_true_iff {a b : Delivery} :
    claimsBefore a b = true ↔ ¬ b.precedes a := by
  have numbers : ∀ (x y : Int) (m n : Nat),
      (x < y ∨ x = y ∧ m ≤ n) ↔ ¬ (y < x ∨ y = x ∧ n < m) := by
    omega
  have times : a.message.created = b.message.created ↔
      a.message.created.position = b.message.created.position := ⟨congrArg _, Instant.ext⟩
  simp only [claimsBefore, Delivery.precedes_iff, Bool.or_eq_true, Bool.and_eq_true,
    decide_eq_true_iff, beq_iff_eq, times]
  exact numbers _ _ _ _

theorem claimsBefore_trans (a b c : Delivery) (ab : claimsBefore a b = true)
    (bc : claimsBefore b c = true) : claimsBefore a c = true := by
  simp only [claimsBefore_eq_true_iff, Delivery.precedes_iff] at *
  omega

theorem claimsBefore_total (a b : Delivery) :
    (claimsBefore a b || claimsBefore b a) = true := by
  simp only [Bool.or_eq_true, claimsBefore_eq_true_iff, Delivery.precedes_iff]
  omega

/-- A ticket of the queue as it is stored, with its message. -/
structure Queued (s : Store) (queue : QueueRef) (d : Delivery) : Prop where
  stored : s.tickets.get? d.ticket.id = some d.ticket
  message : s.messages.get? d.ticket.message = some d.message
  queue : d.ticket.queue = queue

section
variable {s : Store} {queue : QueueRef} {eligible : List TicketState} {timeout : Duration}
variable {now : Instant} {d first : Delivery}

/-- Nothing in the list of live tickets precedes its head. -/
theorem not_precedes_head (head : (s.liveTickets queue now).head? = some first)
    (mem : d ∈ s.liveTickets queue now) : ¬ d.precedes first := by
  have sorted : (s.liveTickets queue now).Pairwise fun a b => claimsBefore a b = true :=
    List.pairwise_mergeSort claimsBefore_trans claimsBefore_total _
  obtain ⟨rest, same⟩ := List.head?_eq_some_iff.1 head
  rw [same] at sorted mem
  rcases List.mem_cons.1 mem with rfl | mem
  · rw [← claimsBefore_eq_true_iff]
    simpa using claimsBefore_total d d
  · rw [← claimsBefore_eq_true_iff]
    exact (List.pairwise_cons.1 sorted).1 d mem

/-- What precedes the ticket that a poll in order selects is done, or expired. -/
theorem passed_of_findNextFifo {candidate : Ticket} {message : Message}
    (found : s.findNextFifo queue eligible timeout now = some candidate)
    (ofCandidate : s.messages.get? candidate.message = some message) (queued : Queued s queue d)
    (before : d.precedes ⟨candidate, message⟩) :
    d.ticket.state.isTerminal = true ∨ d.message.isExpired now = true := by
  obtain ⟨selected, -⟩ := Option.filter_eq_some_iff.1 found
  obtain ⟨first, head, rfl⟩ := Option.map_eq_some_iff.1 selected
  obtain ⟨-, -, -, itsMessage, -⟩ := mem_liveTickets_iff.1 (List.mem_of_head? head)
  cases ofCandidate.symm.trans itsMessage
  cases live : d.ticket.state.isTerminal with
  | true => exact .inl rfl
  | false =>
    cases unexpired : d.message.isExpired now with
    | true => exact .inr rfl
    | false =>
      refine absurd before (not_precedes_head head (mem_liveTickets_iff.2 ?_))
      exact ⟨⟨_, queued.stored⟩, queued.queue, live, queued.message, unexpired⟩

end

/-! What is queued in a run. -/

/-- Where a ticket is queued that was stored before, it was queued before with the same message. -/
theorem Queued.earlier {steps more : List Step}
    (ids : (issuedTickets .empty (steps ++ more)).Nodup) {queue : QueueRef} {d : Delivery}
    (h : Queued (run .empty (steps ++ more)) queue d) {row : Ticket}
    (stored : (run .empty steps).tickets.get? d.ticket.id = some row) :
    Queued (run .empty steps) queue ⟨row, d.message⟩ ∧ Follows row d.ticket := by
  obtain ⟨last, there, follows⟩ := follows_run stored (not_mem_issuedTickets ids stored)
  obtain ⟨message, known⟩ := referenced_run steps _ row stored
  have kept := message_run known more
  rw [← run_append] at there kept
  cases h.stored.symm.trans there
  have same := h.message
  rw [follows.message, kept] at same
  cases same
  exact ⟨⟨follows.id ▸ stored, known, follows.queue ▸ h.queue⟩, follows⟩

/-- What is queued stays queued, with its message. -/
theorem Queued.later {steps more : List Step}
    (ids : (issuedTickets .empty (steps ++ more)).Nodup) {queue : QueueRef} {d : Delivery}
    (h : Queued (run .empty steps) queue d) :
    ∃ row, Queued (run .empty (steps ++ more)) queue ⟨row, d.message⟩ ∧ Follows d.ticket row := by
  obtain ⟨row, there, follows⟩ := follows_run h.stored (not_mem_issuedTickets ids h.stored)
  have kept := message_run h.message more
  rw [← run_append] at there kept
  exact ⟨row, ⟨follows.id ▸ there, follows.message ▸ kept, follows.queue ▸ h.queue⟩, follows⟩

/-! A poll in order. -/

/-- Between the selection of a ticket and its claim none that precedes it was skipped: each is done,
and its row as it was, or its message has expired. -/
def NoneSkipped (selected claimed : Store) (queue : QueueRef) (now : Instant) (delivery : Delivery) :
    Prop :=
  ∀ d, Queued selected queue d → d.precedes delivery →
    claimed.tickets.get? d.ticket.id = some d.ticket ∧ d.ticket.state.isTerminal = true ∨
      d.message.isExpired now = true

/-- A poll in order hands out no ticket before those that precede it. -/
theorem noneSkipped_of_claimed {steps between : List Step}
    (proper : ProperRun (steps ++ between)) {queue : QueueRef} {eligible : List TicketState}
    {timeout timeout' : Duration} {now now' : Instant} {fresh : Fresh} {candidate : Ticket}
    {consumer : Consumer} {delivery : Delivery}
    (found : (run .empty steps).findNextFifo queue eligible timeout now = some candidate)
    (claimed : ((run .empty (steps ++ between)).tryClaim fresh candidate consumer timeout' now').1 =
      .ok (.claimed delivery)) :
    Queued (run .empty steps) queue ⟨candidate, delivery.message⟩ ∧
      delivery.ticket.id = candidate.id ∧
      NoneSkipped (run .empty steps) (run .empty (steps ++ between)) queue now delivery := by
  have keyed : ∀ id row, (run .empty steps).tickets.get? id = some row → row.id = id :=
    fun id row stored => (givenOut_run steps id row stored).1
  have selected : (run .empty steps).findNext true queue eligible timeout now = some candidate :=
    found
  obtain ⟨message, selectable⟩ := selectable_of_findNext keyed selected
  have first : Queued (run .empty steps) queue ⟨candidate, message⟩ :=
    ⟨selectable.stored, selectable.message, selectable.queue⟩
  obtain ⟨row, queued, follows⟩ := first.later proper.ids
  obtain ⟨_, -, stored, -, ofRow, taken⟩ := accepted_of_claimed claimed
  have there := queued.stored
  rw [follows.id] at there
  cases there.symm.trans stored
  have same : message = delivery.message := Option.some.inj (queued.message.symm.trans ofRow)
  subst same
  have id : delivery.ticket.id = candidate.id := by
    rw [taken]
    exact follows.id
  refine ⟨first, id, fun d queued before => ?_⟩
  have before : d.precedes ⟨candidate, delivery.message⟩ := before.congr ⟨rfl, rfl⟩ ⟨id.symm, rfl⟩
  rcases passed_of_findNextFifo found first.message queued before with done | expired
  · exact .inl ⟨proper.done_run queued.stored done, done⟩
  · exact .inr expired

section
variable {η : Type}

theorem claimNext_noneSkipped {past during later : List Step}
    (proper : ProperRun (past ++ (during ++ later))) {consumer : Consumer} {policy : DeliveryPolicy}
    (inOrder : policy.fifo = true) {eligible : List TicketState} {now : Instant} {delivery : Delivery}
    (runs : Routine.Runs
      (Routine.claimNext consumer policy eligible now : StoreRoutine η ClaimOutcome).run
      (run .empty past) during (.ok (.claimed delivery))) :
    ∃ before first between fresh candidate after,
      during = before ++ (⟨first, selection consumer policy eligible now⟩ :: between ++
        ⟨fresh, .tryClaim candidate consumer policy.processingTimeout now⟩ :: after) ∧
      let untilSelected := past ++ before
      let untilClaimed :=
        untilSelected ++ (⟨first, selection consumer policy eligible now⟩ :: between)
      ((run .empty untilClaimed).tryClaim fresh candidate consumer policy.processingTimeout now).1 =
        .ok (.claimed delivery) ∧
      Queued (run .empty untilSelected) consumer.queue ⟨candidate, delivery.message⟩ ∧
      delivery.ticket.id = candidate.id ∧
      NoneSkipped (run .empty untilSelected) (run .empty untilClaimed) consumer.queue now
        delivery := by
  obtain ⟨before, first, between, fresh, candidate, after, rfl, found, answered⟩ :=
    claimNext_split runs
  rw [← run_append .empty past before] at found answered
  rw [← run_append .empty (past ++ before)] at answered
  rw [findNext, inOrder, if_pos rfl] at found
  have whole : past ++ (before ++ (⟨first, selection consumer policy eligible now⟩ :: between ++
      ⟨fresh, .tryClaim candidate consumer policy.processingTimeout now⟩ :: after) ++ later) =
      (past ++ before ++ (⟨first, selection consumer policy eligible now⟩ :: between)) ++
        (⟨fresh, .tryClaim candidate consumer policy.processingTimeout now⟩ :: after ++ later) := by
    simp
  rw [whole] at proper
  have passed := noneSkipped_of_claimed proper.of_append found answered
  exact ⟨before, first, between, fresh, candidate, after, rfl, answered, passed⟩

/-! A queue that only polls in order serve. -/

/-- A poll in order, among the steps, hands out the delivery. -/
def PolledInOrder (η : Type) (steps : List Step) (delivery : Delivery) : Prop :=
  ∃ past during later consumer policy eligible now,
    steps = past ++ (during ++ later) ∧ policy.fifo = true ∧
    Routine.Runs
      (Routine.claimNext consumer policy eligible now : StoreRoutine η ClaimOutcome).run
      (run .empty past) during (.ok (.claimed delivery))

structure ServedInOrder (η : Type) (queue : QueueRef) (steps : List Step) : Prop where
  polled : ∀ before now delivery, ClaimedAfter steps before now delivery →
    delivery.ticket.queue = queue → PolledInOrder η steps delivery
  /-- When a ticket of the queue is claimed no message of the queue has expired. -/
  unexpired : ∀ before now delivery, ClaimedAfter steps before now delivery →
    delivery.ticket.queue = queue →
    ∀ d, Queued (run .empty before) queue d → d.message.isExpired now = false
  /-- A ticket is stored before all those that it precedes. -/
  appended : ∀ before during later, steps = before ++ (during ++ later) →
    ∀ a b, Queued (run .empty before) queue b → Queued (run .empty (before ++ during)) queue a →
      a.precedes b → ∃ row, (run .empty before).tickets.get? a.ticket.id = some row

/-- The tickets of a queue as polls in order leave them. -/
structure InOrder (s : Store) (queue : QueueRef) : Prop where
  oneAtWork : ∀ a b, Queued s queue a → Queued s queue b → a.ticket.state = .inProgress →
    b.ticket.state = .inProgress → a = b
  doneInOrder : ∀ a b, Queued s queue a → Queued s queue b → a.precedes b →
    b.ticket.state.isTerminal = true → a.ticket.state.isTerminal = true
  begunAfterDone : ∀ a b, Queued s queue a → Queued s queue b → a.precedes b →
    b.ticket.state ≠ .ready → a.ticket.state.isTerminal = true

/-- What precedes a ticket that was ever claimed is done. -/
def ClaimedAfterDone (s : Store) (queue : QueueRef) : Prop :=
  ∀ a b, Queued s queue a → Queued s queue b → a.precedes b → b.ticket.owner ≠ none →
    a.ticket.state.isTerminal = true

theorem ClaimedAfterDone.inOrder {steps : List Step} {queue : QueueRef}
    (h : ClaimedAfterDone (run .empty steps) queue) : InOrder (run .empty steps) queue := by
  have begun : ∀ a b, Queued (run .empty steps) queue a → Queued (run .empty steps) queue b →
      a.precedes b → b.ticket.state ≠ .ready → a.ticket.state.isTerminal = true := by
    intro a b first queued order begun
    exact h a b first queued order fun free => begun (ready_of_unowned steps queued.stored free)
  have apart : ∀ a b, Queued (run .empty steps) queue a → Queued (run .empty steps) queue b →
      a.ticket.state = .inProgress → b.ticket.state = .inProgress → ¬ a.precedes b := by
    intro a b first queued working working' order
    have done := begun a b first queued order (by rw [working']; exact TicketState.noConfusion)
    rw [working] at done
    cases done
  refine ⟨?_, ?_, begun⟩
  · intro a b first queued working working'
    by_cases same : a.ticket.id = b.ticket.id
    · have ticket := first.stored
      rw [same, queued.stored] at ticket
      have message := first.message
      rw [← Option.some.inj ticket, queued.message] at message
      obtain ⟨_, _⟩ := a
      obtain ⟨_, _⟩ := b
      rw [Delivery.mk.injEq]
      exact ⟨(Option.some.inj ticket).symm, (Option.some.inj message).symm⟩
    · rcases Delivery.precedes_or_precedes same with order | order
      · exact absurd order (apart a b first queued working working')
      · exact absurd order (apart b a queued first working' working)
  · intro a b first queued order done
    refine begun a b first queued order ?_
    intro ready
    rw [ready] at done
    cases done

/-- Where all that preceded a ticket was done at some time, all that precedes it later is done. -/
theorem done_of_precedes {queue : QueueRef} {before during later : List Step}
    (proper : ProperRun (before ++ during))
    (served : ServedInOrder η queue (before ++ (during ++ later))) {a b : Delivery} {row : Ticket}
    (first : Queued (run .empty (before ++ during)) queue a)
    (queued : Queued (run .empty (before ++ during)) queue b)
    (stored : (run .empty before).tickets.get? b.ticket.id = some row)
    (passed : ∀ d, Queued (run .empty before) queue d → d.precedes ⟨row, b.message⟩ →
      d.ticket.state.isTerminal = true)
    (order : a.precedes b) : a.ticket.state.isTerminal = true := by
  obtain ⟨earlier, follows⟩ := queued.earlier proper.ids stored
  have order : a.precedes ⟨row, b.message⟩ := order.congr ⟨rfl, rfl⟩ ⟨follows.id.symm, rfl⟩
  obtain ⟨was, storedFirst⟩ := served.appended before during later rfl a _ earlier first order
  obtain ⟨earlierFirst, followsFirst⟩ := first.earlier proper.ids storedFirst
  have done := passed _ earlierFirst (order.congr ⟨followsFirst.id.symm, rfl⟩ ⟨rfl, rfl⟩)
  have kept := proper.done_run storedFirst done
  cases first.stored.symm.trans kept
  exact done

/-- A claim that goes through keeps to the order. -/
theorem done_of_claimed {queue : QueueRef} {before later : List Step} {step : Step}
    (proper : ProperRun (before ++ step :: later))
    (served : ServedInOrder η queue (before ++ step :: later)) {now : Instant} {a b : Delivery}
    (claimed : ClaimedAfter (before ++ step :: later) before now b)
    (first : Queued (run .empty (before ++ [step])) queue a)
    (queued : Queued (run .empty (before ++ [step])) queue b)
    (order : a.precedes b) : a.ticket.state.isTerminal = true := by
  obtain ⟨past, during, rest, consumer, policy, eligible, now', split, inOrder, runs⟩ :=
    served.polled before now b claimed queued.queue
  have polled := proper
  rw [split] at polled
  obtain ⟨untilSelected, selects, between, fresh, candidate, after, rfl, answered, candidates, same,
    passed⟩ := claimNext_noneSkipped polled inOrder runs
  have again : ClaimedAfter (before ++ step :: later) _ now' b :=
    ⟨fresh, candidate, consumer, policy.processingTimeout, after ++ rest, by rw [split]; simp,
      answered⟩
  obtain ⟨rfl, rfl⟩ := claimed.eq_of_token again proper.tokens rfl
  generalize past ++ untilSelected = selected at *
  generalize (_ :: between) = meanwhile at *
  have whole : selected ++ meanwhile ++ step :: later =
      selected ++ (meanwhile ++ [step] ++ later) := by simp
  rw [List.append_assoc] at first queued
  rw [whole] at proper served claimed
  rw [← List.append_assoc] at proper
  have here := proper.of_append
  have stored : (run .empty selected).tickets.get? b.ticket.id = some candidate := by
    rw [same]
    exact candidates.stored
  obtain ⟨earlier, -⟩ := queued.earlier here.ids stored
  cases candidates.queue.symm.trans earlier.queue
  refine done_of_precedes here served first queued stored ?_ order
  intro d queuedFirst orderFirst
  rcases passed d queuedFirst (orderFirst.congr ⟨rfl, rfl⟩ ⟨same, rfl⟩) with ⟨-, done⟩ | expired
  · exact done
  · rw [← List.append_assoc] at here
    obtain ⟨row, still, -⟩ := queuedFirst.later here.of_append.ids
    have unexpired := served.unexpired _ _ b claimed queued.queue _ still
    rw [expired] at unexpired
    cases unexpired

theorem claimedAfterDone_run {queue : QueueRef} {steps : List Step}
    (proper : ProperRun steps) (served : ServedInOrder η queue steps)
    (before : List Step) :
    ∀ later, steps = before ++ later → ClaimedAfterDone (run .empty before) queue := by
  refine run_induction (P := fun before s => ∀ later, steps = before ++ later →
    ClaimedAfterDone s queue) ?_ ?_ before
  · intro later _ a b first
    cases first.stored
  · rintro before step ih later rfl a b first queued order owned
    rw [← run_concat] at first queued
    have here := proper.of_append
    rw [List.append_assoc] at proper served
    -- A ticket that was claimed before has only done ones before it, and it keeps its place.
    have alreadyOwned : ∀ row, (run .empty before).tickets.get? b.ticket.id = some row →
        row.owner ≠ none → a.ticket.state.isTerminal = true := by
      intro row stored owned
      obtain ⟨earlier, -⟩ := queued.earlier here.ids stored
      refine done_of_precedes here served first queued stored ?_ order
      intro d queuedFirst orderFirst
      exact ih _ (List.append_assoc _ _ _) d _ queuedFirst earlier orderFirst owned
    have stored := queued.stored
    rw [run_concat] at stored
    generalize same : b.ticket.id = id at *
    cases ticketStep (run .empty before) id step with
    | kept unchanged => exact alreadyOwned b.ticket (unchanged.symm.trans stored) owned
    | published _ _ _ becomes =>
      rw [Option.some.inj (stored.symm.trans becomes)] at owned
      exact absurd rfl owned
    | @claimed fresh candidate consumer timeout now row is ofQueue found accepted _ becomes =>
      subst is
      rw [← same] at found
      obtain ⟨earlier, -⟩ := queued.earlier here.ids found
      rw [same] at found
      have taken := Option.some.inj (stored.symm.trans becomes)
      have answered : ((run .empty before).tryClaim fresh candidate consumer timeout now).1 =
          .ok (.claimed b) := by
        rw [tryClaim_of_accepted ofQueue found accepted, require_eq_ok_iff.2 earlier.message,
          ← taken]
        rfl
      exact done_of_claimed proper served
        ⟨fresh, candidate, consumer, timeout, later, rfl, answered⟩ first queued order
    | committed _ found held => exact alreadyOwned _ found (owned_of_isHeldBy held)
    | alive found held => exact alreadyOwned _ found (owned_of_isHeldBy held)

/-- Polls in order never overtake: when one hands out a ticket, all that precede it and were stored
when it was selected are done or expired. Where all claims of a queue are made so, no message of it
expires and none comes late, the queue stays in order. -/
theorem fifo_never_overtakes (η : Type) {steps : List Step} (proper : ProperRun steps) :
    (∀ past during later, steps = past ++ (during ++ later) →
      ∀ consumer (policy : DeliveryPolicy) eligible now delivery, policy.fifo = true →
      Routine.Runs
        (Routine.claimNext consumer policy eligible now : StoreRoutine η ClaimOutcome).run
        (run .empty past) during (.ok (.claimed delivery)) →
      ∃ before first between fresh candidate after,
        during = before ++ (⟨first, selection consumer policy eligible now⟩ :: between ++
          ⟨fresh, .tryClaim candidate consumer policy.processingTimeout now⟩ :: after) ∧
        let untilSelected := past ++ before
        let untilClaimed :=
          untilSelected ++ (⟨first, selection consumer policy eligible now⟩ :: between)
        ((run .empty untilClaimed).tryClaim fresh candidate consumer policy.processingTimeout
          now).1 = .ok (.claimed delivery) ∧
        Queued (run .empty untilSelected) consumer.queue ⟨candidate, delivery.message⟩ ∧
        delivery.ticket.id = candidate.id ∧
        NoneSkipped (run .empty untilSelected) (run .empty untilClaimed) consumer.queue now
          delivery) ∧
    ∀ queue, ServedInOrder η queue steps → ∀ before later, steps = before ++ later →
      InOrder (run .empty before) queue := by
  constructor
  · rintro past during later rfl consumer policy eligible now delivery inOrder runs
    exact claimNext_noneSkipped proper inOrder runs
  · intro queue served before later split
    exact (claimedAfterDone_run proper served before later split).inOrder

end

/-! Two tickets of one queue, delivered in order. -/

def secondMessage : Message := { oneMessage with id := ⟨.ofNat 17⟩ }

def secondTicket : Ticket :=
  .fresh ⟨.ofNat 1100⟩ ⟨.ofNat 1100⟩ (.subscriber ⟨.ofNat 5⟩) ⟨.ofNat 17⟩

def timely : DeliveryPolicy := .inOrder (.ofSecs 30)

def twoInOrder : List Step := oneTicket ++ [
  ⟨freshFrom 1100, .publish secondMessage [.subscriber ⟨.ofNat 5⟩]⟩,
  ⟨freshFrom 1200, selection runner timely TicketState.defaultEligible default⟩,
  firstClaim,
  ⟨freshFrom 3000, .commit runner ⟨.ofNat 1000⟩ ⟨.ofNat 2000⟩ ⟨.completed, 0, none, none⟩ default⟩,
  ⟨freshFrom 3100, selection otherRunner timely TicketState.defaultEligible default⟩,
  ⟨freshFrom 4000, .tryClaim secondTicket otherRunner (.ofSecs 30) default⟩]

def firstDelivery : Delivery :=
  ⟨ticketAtFirst.claimedBy runner.instanceUuid ⟨.ofNat 2000⟩ default, oneMessage⟩

def secondDelivery : Delivery :=
  ⟨secondTicket.claimedBy otherRunner.instanceUuid ⟨.ofNat 4000⟩ default, secondMessage⟩

theorem findNext_first :
    (run .empty (twoInOrder.take 9)).findNextFifo runner.queue TicketState.defaultEligible
      (.ofSecs 30) default = some ticketAtFirst := by
  have live : (run .empty (twoInOrder.take 9)).liveTickets runner.queue default =
      [⟨ticketAtFirst, oneMessage⟩, ⟨secondTicket, secondMessage⟩] :=
    liveTickets_of_unsorted (by decide +kernel) (by decide +kernel)
  rw [findNextFifo, live]
  decide +kernel

theorem findNext_second :
    (run .empty (twoInOrder.take 12)).findNextFifo otherRunner.queue TicketState.defaultEligible
      (.ofSecs 30) default = some secondTicket := by
  have live : (run .empty (twoInOrder.take 12)).liveTickets otherRunner.queue default =
      [⟨secondTicket, secondMessage⟩] :=
    liveTickets_of_unsorted (by decide +kernel) (by decide +kernel)
  rw [findNextFifo, live]
  decide +kernel

theorem claims_twoInOrder {before : List Step} {now : Instant} {delivery : Delivery}
    (h : ClaimedAfter twoInOrder before now delivery) :
    (before = twoInOrder.take 10 ∧ now = default ∧ delivery = firstDelivery) ∨
      (before = twoInOrder.take 13 ∧ now = default ∧ delivery = secondDelivery) := by
  obtain ⟨fresh, candidate, consumer, timeout, later, split, answered⟩ := h
  obtain ⟨here, same⟩ := getElem?_of_split split
  have places : ∀ i < 14, (twoInOrder[i]?.bind (·.call.candidate?)).isSome = true →
      i = 10 ∨ i = 13 := by decide +kernel
  obtain ⟨bound, -⟩ := List.getElem?_eq_some_iff.1 here
  generalize before.length = place at *
  subst same
  rcases places place bound (by rw [here]; rfl) with rfl | rfl
  · cases here
    cases answered
    exact .inl ⟨rfl, rfl, rfl⟩
  · cases here
    cases answered
    exact .inr ⟨rfl, rfl, rfl⟩

theorem commitsUnderClaims_twoInOrder : CommitsUnderClaims twoInOrder := by
  intro before fresh consumer ticket token update now later split
  obtain ⟨here, same⟩ := getElem?_of_split split
  have places : ∀ i < 14, (twoInOrder[i]?.any fun step => step.call.isCommit) = true →
      i = 11 := by decide +kernel
  obtain ⟨bound, -⟩ := List.getElem?_eq_some_iff.1 here
  generalize before.length = place at *
  cases places place bound (by rw [here]; rfl)
  cases here
  subst same
  exact ⟨twoInOrder.take 10, default, firstDelivery,
    ⟨freshFrom 2000, ticketAtFirst, runner, .ofSecs 30, [], rfl, rfl⟩, rfl⟩

/-- The tickets of the two messages, as far as their order goes. -/
theorem queued_twoInOrder {before later : List Step} (split : twoInOrder = before ++ later)
    {d : Delivery} (h : Queued (run .empty before) runner.queue d) :
    (d.ticket.id = ticketAtFirst.id ∧ d.message = oneMessage) ∨
      (d.ticket.id = secondTicket.id ∧ d.message = secondMessage) := by
  have ids : (issuedTickets .empty (before ++ later)).Nodup := by
    rw [← split]
    decide +kernel
  obtain ⟨row, queued, follows⟩ := h.later ids
  rw [← split] at queued
  have rows : ∀ row ∈ (run .empty twoInOrder).tickets.values,
      (row.id = ticketAtFirst.id ∧ row.message = oneMessage.id) ∨
        (row.id = secondTicket.id ∧ row.message = secondMessage.id) := by decide +kernel
  have message := queued.message
  rw [← follows.id]
  rcases rows row ((Table.mem_values_iff _ _).2 ⟨_, queued.stored⟩) with ⟨id, ofRow⟩ | ⟨id, ofRow⟩
  · rw [ofRow] at message
    exact .inl ⟨id, (Option.some.inj message).symm⟩
  · rw [ofRow] at message
    exact .inr ⟨id, (Option.some.inj message).symm⟩

theorem servedInOrder_twoInOrder : ServedInOrder Unit runner.queue twoInOrder where
  polled before now delivery h _ := by
    rcases claims_twoInOrder h with ⟨-, -, rfl⟩ | ⟨-, -, rfl⟩
    · exact ⟨twoInOrder.take 9, _, twoInOrder.drop 11, runner, timely, TicketState.defaultEligible,
        default, rfl, rfl, runs_claimNext (freshFrom 1200) (freshFrom 2000) findNext_first rfl⟩
    · exact ⟨twoInOrder.take 12, _, twoInOrder.drop 14, otherRunner, timely,
        TicketState.defaultEligible, default, rfl, rfl,
        runs_claimNext (freshFrom 3100) (freshFrom 4000) findNext_second rfl⟩
  unexpired before now delivery h _ d queued := by
    obtain ⟨_, _, _, _, later, split, -⟩ := h
    rcases queued_twoInOrder split queued with ⟨-, message⟩ | ⟨-, message⟩
    all_goals
      rw [message]
      rfl
  appended before during later split a b queued first order := by
    have whole : twoInOrder = (before ++ during) ++ later := by rw [split, List.append_assoc]
    have here : before = twoInOrder.take before.length := by simp [split]
    have bound : before.length < 15 := by
      have lengths := congrArg List.length split
      simp only [List.length_append] at lengths
      have fourteen : twoInOrder.length = 14 := rfl
      omega
    have stored := queued.stored
    rcases queued_twoInOrder split queued with ⟨is, message⟩ | ⟨is, message⟩
    · rcases queued_twoInOrder whole first with ⟨isFirst, -⟩ | ⟨isSecond, ofSecond⟩
      · exact ⟨_, by rw [isFirst, ← is]; exact stored⟩
      · have order : Delivery.precedes ⟨secondTicket, secondMessage⟩ ⟨ticketAtFirst, oneMessage⟩ :=
          order.congr ⟨isSecond.symm, ofSecond.symm⟩ ⟨is.symm, message.symm⟩
        rw [Delivery.precedes_iff] at order
        exact absurd order (by decide)
    · rcases queued_twoInOrder whole first with ⟨isFirst, -⟩ | ⟨isSecond, -⟩
      · have both : ∀ i < 15,
            ((run .empty (twoInOrder.take i)).tickets.get? secondTicket.id).isSome = true →
            ((run .empty (twoInOrder.take i)).tickets.get? ticketAtFirst.id).isSome = true := by
          decide +kernel
        have known := both before.length bound (by rw [← here, ← is, stored]; rfl)
        rw [← here, ← isFirst] at known
        exact Option.isSome_iff_exists.1 known
      · exact ⟨_, by rw [isSecond, ← is]; exact stored⟩

theorem properRun_twoInOrder : ProperRun twoInOrder where
  ids := by decide +kernel
  tokens := by decide +kernel
  commits := commitsUnderClaims_twoInOrder

theorem fifo_never_overtakes_twoInOrder :
    ProperRun twoInOrder ∧ ServedInOrder Unit runner.queue twoInOrder ∧
    (∃ selected claimed row, Queued selected runner.queue ⟨row, secondMessage⟩ ∧
      secondTicket.id = row.id ∧ NoneSkipped selected claimed runner.queue default secondDelivery) ∧
    InOrder (run .empty twoInOrder) runner.queue := by
  obtain ⟨passed, inOrder⟩ := fifo_never_overtakes Unit properRun_twoInOrder
  obtain ⟨_, _, _, _, _, _, -, -, queued, same, none⟩ :=
    passed (twoInOrder.take 12) _ (twoInOrder.drop 14) rfl otherRunner timely
      TicketState.defaultEligible default secondDelivery rfl
      (runs_claimNext (freshFrom 3100) (freshFrom 4000) findNext_second rfl)
  exact ⟨properRun_twoInOrder, servedInOrder_twoInOrder, ⟨_, _, _, queued, same, none⟩,
    inOrder _ servedInOrder_twoInOrder twoInOrder [] rfl⟩

end Store
end MessageBus
