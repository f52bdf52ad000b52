import Mathlib.Data.List.Nodup
import MessageBus.Proofs.Polling

/-! Queues beside each other. All tickets stand in one table, whatever their queue; selection and the
test of ownership look at the queue of each row. So what consumers of one queue get and do depends on
the tickets of that queue alone, with their messages, and reaches no other queue. -/
namespace MessageBus.Store

/-- The two stores have the same tickets of the queue, and the same messages for them. -/
structure AgreeOn (queue : QueueRef) (s t : Store) : Prop where
  tickets : ∀ id row, row.queue = queue →
    (s.tickets.get? id = some row ↔ t.tickets.get? id = some row)
  messages : ∀ id row, s.tickets.get? id = some row → row.queue = queue →
    s.messages.get? row.message = t.messages.get? row.message

/-- The tickets of the queue are left as they were, and so are all messages. -/
structure Spares (queue : QueueRef) (s t : Store) : Prop where
  tickets : ∀ id row, row.queue = queue →
    (t.tickets.get? id = some row ↔ s.tickets.get? id = some row)
  messages : t.messages = s.messages

/-- An operation has the same outcome in both stores, and leads to stores that agree on the queue. -/
structure EndsAlike (queue : QueueRef) {α : Type} (x y : Result α) : Prop where
  outcome : x.1 = y.1
  agree : AgreeOn queue x.2 y.2

section
variable {queue : QueueRef} {s t : Store} {consumer : Consumer}

theorem Spares.refl (queue : QueueRef) (s : Store) : Spares queue s s := ⟨fun _ _ _ => Iff.rfl, rfl⟩

/-- A row that stays in another queue changes nothing for this one. -/
theorem Spares.insert {id : TicketId} {row next : Ticket} (stored : s.tickets.get? id = some row)
    (other : row.queue ≠ queue) (same : next.queue = row.queue) :
    Spares queue s { s with tickets := s.tickets.insert id next } := by
  refine ⟨fun key late own => ?_, rfl⟩
  have elsewhere (there : Ticket) (isThere : there.queue = row.queue) : some there ≠ some late := by
    rintro ⟨⟩
    exact other (isThere.symm.trans own)
  rw [Table.get?_insert]
  split
  · next here =>
    subst here
    rw [stored]
    exact iff_of_false (elsewhere next same) (elsewhere row rfl)
  · exact Iff.rfl

/-- A row that is written for the queue in both stores is the same in both. -/
theorem AgreeOn.insert (h : AgreeOn queue s t) {id : TicketId} {row next : Ticket}
    (stored : s.tickets.get? id = some row) (own : row.queue = queue)
    (same : next.message = row.message) :
    AgreeOn queue { s with tickets := s.tickets.insert id next }
      { t with tickets := t.tickets.insert id next } := by
  constructor
  · intro key late ofQueue
    rw [Table.get?_insert, Table.get?_insert]
    split
    · exact Iff.rfl
    · exact h.tickets key late ofQueue
  · intro key late there ofQueue
    rw [Table.get?_insert] at there
    split at there
    · cases there
      rw [same]
      exact h.messages id row stored own
    · exact h.messages key late there ofQueue

theorem AgreeOn.symm (h : AgreeOn queue s t) : AgreeOn queue t s where
  tickets id row own := (h.tickets id row own).symm
  messages id row there own := (h.messages id row ((h.tickets id row own).2 there) own).symm

/-! What a consumer of the queue sees. -/

theorem AgreeOn.mem_liveTickets (h : AgreeOn queue s t) {now : Instant} {d : Delivery}
    (mem : d ∈ s.liveTickets queue now) : d ∈ t.liveTickets queue now := by
  obtain ⟨⟨id, stored⟩, own, live, message, unexpired⟩ := mem_liveTickets_iff.1 mem
  refine mem_liveTickets_iff.2 ⟨⟨id, (h.tickets id _ own).1 stored⟩, own, live, ?_, unexpired⟩
  rw [← h.messages id _ stored own]
  exact message

theorem AgreeOn.liveTickets (h : AgreeOn queue s t) (keyed : Keyed Ticket.id s.tickets)
    (keyed' : Keyed Ticket.id t.tickets) (now : Instant) :
    s.liveTickets queue now = t.liveTickets queue now :=
  Delivery.eq_of_ascending (ascending_liveTickets keyed) (ascending_liveTickets keyed')
    fun _ => ⟨h.mem_liveTickets, h.symm.mem_liveTickets⟩

theorem AgreeOn.findNext (h : AgreeOn queue s t) (keyed : Keyed Ticket.id s.tickets)
    (keyed' : Keyed Ticket.id t.tickets) (fifo : Bool) (eligible : List TicketState)
    (timeout : Duration) (now : Instant) :
    s.findNext fifo queue eligible timeout now = t.findNext fifo queue eligible timeout now := by
  simp only [Store.findNext, findNextFifo, findNextNonFifo, h.liveTickets keyed keyed' now]

theorem AgreeOn.heldTicket? (h : AgreeOn queue s t) (own : consumer.queue = queue)
    (ticket : TicketId) (token : ConcurrencyToken) :
    s.heldTicket? consumer ticket token = t.heldTicket? consumer ticket token := by
  refine Option.ext fun row => ?_
  rw [heldTicket?_eq_some_iff, heldTicket?_eq_some_iff]
  exact and_congr_left fun held => h.tickets ticket row ((queue_of_isHeldBy held).trans own)

theorem AgreeOn.countByState (h : AgreeOn queue s t) (keyed : Keyed Ticket.id s.tickets)
    (keyed' : Keyed Ticket.id t.tickets) : s.countByState queue = t.countByState queue := by
  have perm : (s.tickets.values.filter fun row => row.queue == queue).Perm
      (t.tickets.values.filter fun row => row.queue == queue) := by
    refine (List.perm_ext_iff_of_nodup ?_ ?_).2 fun row => ?_
    · exact List.Nodup.of_map _ (keyed.nodup_map_filter _)
    · exact List.Nodup.of_map _ (keyed'.nodup_map_filter _)
    · simp only [List.mem_filter, Table.mem_values_iff, beq_iff_eq]
      refine and_congr_left fun own => exists_congr fun id => h.tickets id row own
  unfold Store.countByState
  simp only [perm.countP_eq]

/-! What consumers do. -/

theorem AgreeOn.takeNext (h : AgreeOn queue s t) (own : consumer.queue = queue)
    (keyed : Keyed Ticket.id s.tickets) (keyed' : Keyed Ticket.id t.tickets) (fresh : Fresh)
    (policy : DeliveryPolicy) (eligible : List TicketState) (now : Instant) :
    EndsAlike queue (s.takeNext fresh consumer policy eligible now)
      (t.takeNext fresh consumer policy eligible now) := by
  subst own
  have same := h.findNext keyed keyed' policy.fifo eligible policy.processingTimeout now
  rcases takeNext_cases keyed fresh consumer policy eligible now with
    ⟨none, becomes⟩ | ⟨d, found, selectable, becomes⟩
  · rw [becomes, takeNext_of_none (same.symm.trans none)]
    exact ⟨rfl, h⟩
  · rcases takeNext_cases keyed' fresh consumer policy eligible now with
      ⟨none, -⟩ | ⟨other, found', selectable', becomes'⟩
    · cases (same.symm.trans found).symm.trans none
    · have ticket : other.ticket = d.ticket :=
        Option.some.inj (found'.symm.trans (same.symm.trans found))
      have message := h.messages _ _ selectable.stored selectable.queue
      rw [selectable.message, ← ticket, selectable'.message] at message
      have message : other.message = d.message := (Option.some.inj message).symm
      rw [becomes, becomes', ticket, message]
      exact ⟨rfl, h.insert selectable.stored selectable.queue rfl⟩

theorem AgreeOn.commit (h : AgreeOn queue s t) (own : consumer.queue = queue) (fresh : Fresh)
    (ticket : TicketId) (token : ConcurrencyToken) (update : TicketUpdate) (now : Instant) :
    EndsAlike queue (s.commit fresh consumer ticket token update now)
      (t.commit fresh consumer ticket token update now) := by
  cases valid : TicketState.inProgress.canMoveTo update.state with
  | false =>
    simp only [Store.commit, TicketState.ensureMove, valid]
    exact ⟨rfl, h⟩
  | true =>
    cases held : s.heldTicket? consumer ticket token with
    | none =>
      rw [commit_of_lost valid held,
        commit_of_lost valid ((h.heldTicket? own ticket token).symm.trans held)]
      exact ⟨rfl, h⟩
    | some row =>
      obtain ⟨stored, holds⟩ := heldTicket?_eq_some_iff.1 held
      have ofQueue := (queue_of_isHeldBy holds).trans own
      rw [commit_of_held valid stored holds,
        commit_of_held valid ((h.tickets ticket row ofQueue).1 stored) holds]
      exact ⟨rfl, h.insert stored ofQueue rfl⟩

theorem AgreeOn.heartbeat (h : AgreeOn queue s t) (own : consumer.queue = queue)
    (ticket : TicketId) (token : ConcurrencyToken) (now : Instant) :
    EndsAlike queue (s.heartbeat consumer ticket token now)
      (t.heartbeat consumer ticket token now) := by
  unfold Store.heartbeat
  rw [← h.heldTicket? own ticket token]
  cases held : (s.heldTicket? consumer ticket token).filter fun row => row.state == .inProgress with
  | none => exact ⟨rfl, h⟩
  | some row =>
    obtain ⟨holds, -⟩ := Option.filter_eq_some_iff.1 held
    obtain ⟨stored, holds⟩ := heldTicket?_eq_some_iff.1 holds
    exact ⟨rfl, h.insert stored ((queue_of_isHeldBy holds).trans own) rfl⟩

/-! What consumers of other queues do. -/

theorem spares_takeNext (other : consumer.queue ≠ queue) (keyed : Keyed Ticket.id s.tickets)
    (fresh : Fresh) (policy : DeliveryPolicy) (eligible : List TicketState) (now : Instant) :
    Spares queue s (s.takeNext fresh consumer policy eligible now).2 := by
  rcases takeNext_cases keyed fresh consumer policy eligible now with
    ⟨-, becomes⟩ | ⟨d, -, selectable, becomes⟩
  · rw [becomes]
    exact .refl queue s
  · rw [becomes]
    exact .insert selectable.stored (selectable.queue.trans_ne other) rfl

theorem spares_commit (other : consumer.queue ≠ queue) (fresh : Fresh) (ticket : TicketId)
    (token : ConcurrencyToken) (update : TicketUpdate) (now : Instant) :
    Spares queue s (s.commit fresh consumer ticket token update now).2 := by
  rcases commit_cases s fresh consumer ticket token update now with
    ⟨row, valid, stored, held⟩ | ⟨e, refused⟩ | lost
  · rw [commit_of_held valid stored held]
    exact .insert stored ((queue_of_isHeldBy held).trans_ne other) rfl
  · rw [refused]
    exact .refl queue s
  · rw [lost]
    exact .refl queue s

theorem spares_heartbeat (other : consumer.queue ≠ queue) (ticket : TicketId)
    (token : ConcurrencyToken) (now : Instant) :
    Spares queue s (s.heartbeat consumer ticket token now).2 := by
  rcases heartbeat_cases s consumer ticket token now with ⟨row, stored, held, working⟩ | lost
  · rw [heartbeat_of_held stored held working]
    exact .insert stored ((queue_of_isHeldBy held).trans_ne other) rfl
  · rw [lost]
    exact .refl queue s

end

/-! Consumers at work. -/

/-- What a consumer does with the tickets of its queue. -/
inductive Work where
  | takeNext (policy : DeliveryPolicy) (eligible : List TicketState) (now : Instant)
  | commit (ticket : TicketId) (token : ConcurrencyToken) (update : TicketUpdate) (now : Instant)
  | heartbeat (ticket : TicketId) (token : ConcurrencyToken) (now : Instant)

abbrev Work.Answer : Work → Type
  | takeNext .. => ClaimOutcome
  | commit .. | heartbeat .. => CommitOutcome

def work (s : Store) (fresh : Fresh) (consumer : Consumer) : (w : Work) → Result w.Answer
  | .takeNext policy eligible now => s.takeNext fresh consumer policy eligible now
  | .commit ticket token update now => s.commit fresh consumer ticket token update now
  | .heartbeat ticket token now => s.heartbeat consumer ticket token now

section
variable {queue : QueueRef} {s t : Store} {consumer : Consumer}

theorem AgreeOn.work (h : AgreeOn queue s t) (own : consumer.queue = queue)
    (keyed : Keyed Ticket.id s.tickets) (keyed' : Keyed Ticket.id t.tickets) (fresh : Fresh)
    (w : Work) : EndsAlike queue (s.work fresh consumer w) (t.work fresh consumer w) := by
  cases w with
  | takeNext policy eligible now => exact h.takeNext own keyed keyed' fresh policy eligible now
  | commit ticket token update now => exact h.commit own fresh ticket token update now
  | heartbeat ticket token now => exact h.heartbeat own ticket token now

theorem spares_work (other : consumer.queue ≠ queue) (keyed : Keyed Ticket.id s.tickets)
    (fresh : Fresh) (w : Work) : Spares queue s (s.work fresh consumer w).2 := by
  cases w with
  | takeNext policy eligible now => exact spares_takeNext other keyed fresh policy eligible now
  | commit ticket token update now => exact spares_commit other fresh ticket token update now
  | heartbeat ticket token now => exact spares_heartbeat other ticket token now

/-- It consists of calls. -/
theorem exists_run_work (s : Store) (fresh : Fresh) (consumer : Consumer) (w : Work) :
    ∃ steps, s.run steps = (s.work fresh consumer w).2 := by
  cases w with
  | takeNext policy eligible now =>
    exact ⟨_, run_pollSteps s fresh fresh consumer policy eligible now⟩
  | commit ticket token update now =>
    exact ⟨[⟨fresh, .commit consumer ticket token update now⟩], rfl⟩
  | heartbeat ticket token now => exact ⟨[⟨fresh, .heartbeat consumer ticket token now⟩], rfl⟩

/-- What others do keeps stores in agreement. -/
theorem Spares.agree (h : Spares queue s t) {u : Store} (agree : AgreeOn queue s u) :
    AgreeOn queue t u where
  tickets id row own := (h.tickets id row own).trans (agree.tickets id row own)
  messages id row there own := by
    rw [h.messages]
    exact agree.messages id row ((h.tickets id row own).1 there) own

end

/-- One consumer does one thing, with the identifiers that the store may give out for it. -/
structure Act where
  fresh : Fresh
  consumer : Consumer
  work : Work

/-- What the consumers of a queue are answered while the acts are done one after another. -/
def answersAt (queue : QueueRef) (s : Store) :
    List Act → List ((w : Work) × Except StoreError w.Answer)
  | [] => []
  | act :: acts =>
    let ended := s.work act.fresh act.consumer act.work
    if act.consumer.queue = queue then ⟨act.work, ended.1⟩ :: answersAt queue ended.2 acts
    else answersAt queue ended.2 acts

/-- The answers at a queue are those of its own consumers by themselves. -/
theorem AgreeOn.answersAt {queue : QueueRef} (acts : List Act) {xs ys : List Step}
    (h : AgreeOn queue (run .empty xs) (run .empty ys)) :
    (run .empty xs).answersAt queue acts =
      (run .empty ys).answersAt queue
        (acts.filter fun act => act.consumer.queue = queue) := by
  induction acts generalizing xs ys with
  | nil => rfl
  | cons act acts ih =>
    obtain ⟨more, becomes⟩ := exists_run_work (run .empty xs) act.fresh act.consumer act.work
    by_cases own : act.consumer.queue = queue
    · obtain ⟨more', becomes'⟩ := exists_run_work (run .empty ys) act.fresh act.consumer act.work
      have alike := h.work own (keyed_tickets_run xs) (keyed_tickets_run ys) act.fresh act.work
      have agree := alike.agree
      rw [← becomes, ← becomes', ← run_append, ← run_append] at agree
      rw [List.filter_cons_of_pos (by simpa using own), Store.answersAt, Store.answersAt]
      simp only [own, if_true]
      rw [alike.outcome, ← becomes, ← becomes', ← run_append, ← run_append, ih agree]
    · have spared := (spares_work own (keyed_tickets_run xs) act.fresh act.work).agree h
      rw [← becomes, ← run_append] at spared
      rw [List.filter_cons_of_neg (by simpa using own), Store.answersAt]
      simp only [own, if_false]
      rw [← becomes, ← run_append, ih spared]

/-- Queues are isolated. What a consumer of a queue does in stores that agree on the queue has the
same outcome in both, and they agree on it again; what others do spares its tickets and all messages.
So the answers at a queue in any interleaving are those of its own consumers by themselves. -/
theorem queues_isolated {queue : QueueRef} {xs ys : List Step}
    (agree : AgreeOn queue (run .empty xs) (run .empty ys)) :
    (∀ fresh (consumer : Consumer) w, consumer.queue = queue →
      EndsAlike queue ((run .empty xs).work fresh consumer w)
        ((run .empty ys).work fresh consumer w)) ∧
    (run .empty xs).countByState queue = (run .empty ys).countByState queue ∧
    (∀ fresh (consumer : Consumer) w, consumer.queue ≠ queue →
      Spares queue (run .empty xs) ((run .empty xs).work fresh consumer w).2) ∧
    ∀ acts, (run .empty xs).answersAt queue acts =
      (run .empty ys).answersAt queue
        (acts.filter fun act => act.consumer.queue = queue) := by
  have keyed := keyed_tickets_run xs
  have keyed' := keyed_tickets_run ys
  refine ⟨fun fresh consumer w own => agree.work own keyed keyed' fresh w,
    agree.countByState keyed keyed', fun fresh consumer w other => spares_work other keyed fresh w,
    fun acts => agree.answersAt acts⟩

/-! A message for two subscribers, one of which has claimed its ticket. -/

def runnerBeside : Consumer := .subscriber ⟨.ofNat 15⟩ ⟨.ofNat 18⟩

def ticketBeside : Ticket :=
  .fresh ⟨.ofNat 1101⟩ ⟨.ofNat 1101⟩ (.subscriber ⟨.ofNat 15⟩) ⟨.ofNat 17⟩

def twoQueues : List Step := oneTicket ++ [
  ⟨freshFrom 0, .registerSubscriber ⟨.ofNat 3⟩ ⟨⟨.ofNat 15⟩, "beside", "type", .default⟩⟩,
  ⟨freshFrom 1100, .publish secondMessage [runner.queue, runnerBeside.queue]⟩]

def claimedBeside : List Step := twoQueues ++ [
  ⟨freshFrom 2000, .tryClaim ticketBeside runnerBeside (.ofSecs 30) default⟩]

theorem queues_isolated_beside :
    AgreeOn runner.queue (run .empty claimedBeside) (run .empty twoQueues) ∧
    (run .empty claimedBeside).tickets.get? ticketBeside.id ≠
      (run .empty twoQueues).tickets.get? ticketBeside.id ∧
    ∀ fresh w, EndsAlike runner.queue ((run .empty claimedBeside).work fresh runner w)
      ((run .empty twoQueues).work fresh runner w) := by
  have stored : (run .empty twoQueues).tickets.get? ticketBeside.id = some ticketBeside := rfl
  have spared : Spares runner.queue (run .empty twoQueues) (run .empty claimedBeside) := by
    have claims : (run .empty claimedBeside) = ((run .empty twoQueues).tryClaim (freshFrom 2000)
        ticketBeside runnerBeside (.ofSecs 30) default).2 := by
      rw [claimedBeside, run_append]
      rfl
    rw [claims, tryClaim_of_accepted rfl stored rfl]
    exact .insert stored (by decide) rfl
  have agree : AgreeOn runner.queue (run .empty claimedBeside) (run .empty twoQueues) :=
    spared.agree ⟨fun _ _ _ => Iff.rfl, fun _ _ _ _ => rfl⟩
  refine ⟨agree, by decide +kernel, fun fresh w => ?_⟩
  exact (queues_isolated agree).1 fresh runner w rfl

end MessageBus.Store
