import Mathlib.Data.List.Forall2
import MessageBus.Proofs.Polling

/-! A consumer that empties its queue: it takes the next ticket, writes that it is done, and goes on
until it gets none. A ticket that is done leaves the list of live tickets, and no other row changes.
So the loop hands out what stood in that list at first: all that could be claimed, or in a queue that is
served in order all up to the first ticket that could not. -/
namespace MessageBus.Store

/-- How a consumer goes about it. -/
structure Drain where
  consumer : Consumer
  policy : DeliveryPolicy
  eligible : List TicketState
  now : Instant
  /-- What it writes to a ticket, but for the state. -/
  update : Delivery → TicketUpdate

inductive DrainEnd where
  /-- There was nothing to be had. -/
  | exhausted
  /-- A claim or a commit was lost. -/
  | lost
  | failed (e : StoreError)
  /-- After the number of rounds that was allowed. -/
  | unfinished
  deriving DecidableEq

namespace Drain
variable (loop : Drain)

def due (d : Delivery) : Bool :=
  d.ticket.isClaimable loop.eligible loop.policy.processingTimeout loop.now

def completed (d : Delivery) : TicketUpdate := { loop.update d with state := .completed }

/-- At most `limit` rounds: what was handed out in them, how they ended, and the store after them. -/
def rounds (limit : Nat) (fresh : Nat → Fresh) (s : Store) : List Delivery × DrainEnd × Store :=
  match limit with
  | 0 => ([], .unfinished, s)
  | limit + 1 =>
    match s.takeNext (fresh 0) loop.consumer loop.policy loop.eligible loop.now with
    | (.ok .empty, t) => ([], .exhausted, t)
    | (.ok (.lost _), t) => ([], .lost, t)
    | (.error e, t) => ([], .failed e, t)
    | (.ok (.claimed d), t) =>
      match t.commit (fresh 1) loop.consumer d.ticket.id d.ticket.token (loop.completed d)
          loop.now with
      | (.ok .lost, u) => ([d], .lost, u)
      | (.error e, u) => ([d], .failed e, u)
      | (.ok (.committed _), u) =>
        let (later, ends, last) := rounds limit (fun n => fresh (n + 2)) u
        (d :: later, ends, last)

/-- What is handed out of the live tickets of a queue. -/
def takes (live : List Delivery) : List Delivery :=
  if loop.policy.fifo then live.takeWhile loop.due else live.filter loop.due

/-- What stays of them. -/
def leaves (live : List Delivery) : List Delivery :=
  if loop.policy.fifo then live.dropWhile loop.due else live.filter fun d => !loop.due d

/-- What stood in the queue, as it is handed out under a token. -/
def handOut (token : ConcurrencyToken) (d : Delivery) : Delivery :=
  ⟨d.ticket.claimedBy loop.consumer.instanceUuid token loop.now, d.message⟩

/-! One round. -/

variable {loop} {s : Store}

theorem filter_ne_of_ascending {before after : List Delivery} {d : Delivery}
    (ascending : (before ++ d :: after).Pairwise Delivery.precedes) :
    (before ++ d :: after).filter (fun e => e ≠ d) = before ++ after := by
  obtain ⟨-, behind, apart⟩ := List.pairwise_append.1 ascending
  have first : before.filter (fun e => e ≠ d) = before := List.filter_eq_self.2 fun e mem =>
    decide_eq_true (Delivery.ne_of_precedes (apart e mem d List.mem_cons_self))
  have last : after.filter (fun e => e ≠ d) = after := List.filter_eq_self.2 fun e mem =>
    decide_eq_true (Delivery.ne_of_precedes ((List.pairwise_cons.1 behind).1 e mem)).symm
  rw [List.filter_append, first, List.filter_cons_of_neg (by simp), last]

/-- What the next round finds, and what it leaves: nothing to be handed out, or the first of all that
is, and the rest is to be handed out from what stays. -/
inductive Next (loop : Drain) (s : Store) (live : List Delivery) : Prop
  | nothing
      (none : s.findNext loop.policy.fifo loop.consumer.queue loop.eligible
        loop.policy.processingTimeout loop.now = none)
      (takes : loop.takes live = []) (leaves : loop.leaves live = live)
  | first {d : Delivery}
      (found : s.findNext loop.policy.fifo loop.consumer.queue loop.eligible
        loop.policy.processingTimeout loop.now = some d.ticket)
      (mem : d ∈ live)
      (takes : loop.takes live = d :: loop.takes (live.filter fun e => e ≠ d))
      (leaves : loop.leaves live = loop.leaves (live.filter fun e => e ≠ d))

theorem next_inOrder {live : List Delivery} (inOrder : loop.policy.fifo = true)
    (is : s.liveTickets loop.consumer.queue loop.now = live)
    (ascending : live.Pairwise Delivery.precedes) : Next loop s live := by
  have found : s.findNext loop.policy.fifo loop.consumer.queue loop.eligible
      loop.policy.processingTimeout loop.now =
        (live.head?.map Delivery.ticket).filter fun t =>
          t.isClaimable loop.eligible loop.policy.processingTimeout loop.now := by
    rw [findNext, if_pos inOrder, findNextFifo, is]
  cases live with
  | nil => exact .nothing found (by simp [takes]) (by simp [leaves])
  | cons d live =>
    have ascending : ([] ++ d :: live).Pairwise Delivery.precedes := ascending
    have rest : (d :: live).filter (fun e => e ≠ d) = live := filter_ne_of_ascending ascending
    rw [List.head?_cons, Option.map_some, Option.filter_some] at found
    cases claimable : loop.due d with
    | false =>
      refine .nothing (found.trans (if_neg (Bool.eq_false_iff.1 claimable))) ?_ ?_
      · simp [takes, inOrder, claimable]
      · simp [leaves, inOrder, claimable]
    | true =>
      refine .first (found.trans (if_pos claimable)) List.mem_cons_self ?_ ?_
      · rw [rest]
        simp [takes, inOrder, claimable]
      · rw [rest]
        simp [leaves, inOrder, claimable]

theorem next_anyOrder {live : List Delivery} (anyOrder : loop.policy.fifo = false)
    (is : s.liveTickets loop.consumer.queue loop.now = live)
    (ascending : live.Pairwise Delivery.precedes) : Next loop s live := by
  have found : s.findNext loop.policy.fifo loop.consumer.queue loop.eligible
      loop.policy.processingTimeout loop.now = (live.find? loop.due).map Delivery.ticket := by
    rw [findNext, anyOrder, findNextNonFifo, is, List.find?_map]
    rfl
  cases first : live.find? loop.due with
  | none =>
    have idle := List.find?_eq_none.1 first
    refine .nothing (by rw [found, first]; rfl) ?_ ?_
    · simpa [takes, anyOrder] using idle
    · simpa [leaves, anyOrder] using idle
  | some d =>
    obtain ⟨claimable, before, after, rfl, idle⟩ := List.find?_eq_some_iff_append.1 first
    have rest := filter_ne_of_ascending ascending
    have none : before.filter loop.due = [] := by simpa using idle
    refine .first (by rw [found, first]; rfl) (by simp) ?_ ?_
    · rw [rest]
      simp [takes, anyOrder, claimable, none]
    · rw [rest]
      simp [leaves, anyOrder, claimable]

theorem next_of_ascending {live : List Delivery}
    (is : s.liveTickets loop.consumer.queue loop.now = live)
    (ascending : live.Pairwise Delivery.precedes) : Next loop s live := by
  cases order : loop.policy.fifo with
  | true => exact next_inOrder order is ascending
  | false => exact next_anyOrder order is ascending

/-! What a round does. -/

theorem eq_of_ticket {d e : Delivery} (ticket : d.ticket = e.ticket)
    (first : s.messages.get? d.ticket.message = some d.message)
    (second : s.messages.get? e.ticket.message = some e.message) : d = e := by
  rw [ticket, second] at first
  cases d
  cases e
  cases ticket
  cases first
  rfl

/-- A ticket that is done is live no longer, and all others stay where they are. -/
theorem liveTickets_of_done {t : Store} {queue : QueueRef} {now : Instant} {d : Delivery}
    {row : Ticket} (keyed : Keyed Ticket.id s.tickets) (keyed' : Keyed Ticket.id t.tickets)
    (mem : d ∈ s.liveTickets queue now) (done : row.state.isTerminal = true)
    (rows : ∀ id, t.tickets.get? id =
      if id = d.ticket.id then some row else s.tickets.get? id)
    (messages : t.messages = s.messages) :
    t.liveTickets queue now = (s.liveTickets queue now).filter fun e => e ≠ d := by
  obtain ⟨⟨key, stored⟩, -, -, message, -⟩ := mem_liveTickets_iff.1 mem
  cases keyed key _ stored
  refine Delivery.eq_of_ascending (ascending_liveTickets keyed')
    ((ascending_liveTickets keyed).filter _) fun e => ?_
  rw [List.mem_filter, mem_liveTickets_iff, mem_liveTickets_iff, messages, decide_eq_true_iff]
  constructor
  · rintro ⟨⟨id, there⟩, own, live, known⟩
    rw [rows] at there
    split at there
    · cases there
      cases live.symm.trans done
    · next other =>
      refine ⟨⟨⟨id, there⟩, own, live, known⟩, ?_⟩
      rintro rfl
      exact other (keyed id _ there).symm
  · rintro ⟨⟨⟨id, there⟩, own, live, known⟩, other⟩
    refine ⟨⟨id, ?_⟩, own, live, known⟩
    rw [rows, if_neg]
    · exact there
    · rintro rfl
      exact other (eq_of_ticket (Option.some.inj (there.symm.trans stored)) known.1 message)

/-- What is selected is handed out. -/
theorem claims_found {steps : List Step} {d : Delivery} (fresh : Fresh)
    (found : (run .empty steps).findNext loop.policy.fifo loop.consumer.queue loop.eligible
      loop.policy.processingTimeout loop.now = some d.ticket)
    (mem : d ∈ (run .empty steps).liveTickets loop.consumer.queue loop.now) :
    ∃ more,
      (run .empty steps).takeNext fresh loop.consumer loop.policy loop.eligible loop.now =
        (.ok (.claimed (loop.handOut (fresh.token 0) d)), run .empty (steps ++ more)) ∧
      run .empty (steps ++ more) = { run .empty steps with
        tickets := (run .empty steps).tickets.insert d.ticket.id
          (loop.handOut (fresh.token 0) d).ticket } := by
  obtain ⟨-, -, -, message, -⟩ := mem_liveTickets_iff.1 mem
  rcases takeNext_cases (keyed_tickets_run steps) fresh loop.consumer loop.policy loop.eligible
      loop.now with ⟨none, -⟩ | ⟨e, found', selectable, becomes⟩
  · cases none.symm.trans found
  · cases eq_of_ticket (Option.some.inj (found'.symm.trans found)) selectable.message message
    have polled := run_pollSteps (run .empty steps) fresh fresh loop.consumer loop.policy
      loop.eligible loop.now
    rw [becomes, ← run_append] at polled
    exact ⟨_, by rw [polled, becomes]; rfl, polled⟩

/-- A ticket that is selected is handed out and done within a round, and then it is live no longer. -/
theorem round_of_found {steps : List Step} {d : Delivery} (claim commit : Fresh)
    (found : (run .empty steps).findNext loop.policy.fifo loop.consumer.queue loop.eligible
      loop.policy.processingTimeout loop.now = some d.ticket)
    (mem : d ∈ (run .empty steps).liveTickets loop.consumer.queue loop.now) :
    ∃ got t token more, got = loop.handOut (claim.token 0) d ∧
      (run .empty steps).takeNext claim loop.consumer loop.policy loop.eligible loop.now =
        (.ok (.claimed got), t) ∧
      t.commit commit loop.consumer got.ticket.id got.ticket.token (loop.completed got) loop.now =
        (.ok (.committed token), run .empty (steps ++ more)) ∧
      (run .empty (steps ++ more)).liveTickets loop.consumer.queue loop.now =
        ((run .empty steps).liveTickets loop.consumer.queue loop.now).filter fun e => e ≠ d := by
  obtain ⟨poll, claims, becomes⟩ := claims_found claim found mem
  generalize is : loop.handOut (claim.token 0) d = got at claims becomes
  have id : got.ticket.id = d.ticket.id := by
    rw [← is]
    rfl
  have held : got.ticket.isHeldBy loop.consumer got.ticket.token = true := by
    obtain ⟨-, own, -⟩ := mem_liveTickets_iff.1 mem
    simp [← is, handOut, Ticket.isHeldBy, Ticket.claimedBy, own]
  have stored : (run .empty (steps ++ poll)).tickets.get? got.ticket.id = some got.ticket := by
    rw [becomes, id]
    exact Table.get?_insert_self _ _ _
  have commits : (run .empty (steps ++ poll)).commit commit loop.consumer got.ticket.id
      got.ticket.token (loop.completed got) loop.now = _ := commit_of_held rfl stored held commit
  let last : Step := ⟨commit, .commit loop.consumer got.ticket.id got.ticket.token
    (loop.completed got) loop.now⟩
  have ends : run .empty (steps ++ (poll ++ [last])) = { run .empty (steps ++ poll) with
      tickets := (run .empty (steps ++ poll)).tickets.insert got.ticket.id
        (got.ticket.updated (loop.completed got) (commit.token 0) loop.now) } := by
    rw [← List.append_assoc, run_append]
    exact congrArg Prod.snd commits
  refine ⟨got, _, commit.token 0, poll ++ [last], rfl, claims, commits.trans ?_, ?_⟩
  · rw [ends]
  · have done : (got.ticket.updated (loop.completed got) (commit.token 0) loop.now).state.isTerminal =
        true := rfl
    refine liveTickets_of_done (keyed_tickets_run _) (keyed_tickets_run _) mem done (fun key => ?_) ?_
    · rw [ends, becomes, id, Table.get?_insert, Table.get?_insert]
      split
      · rfl
      · rfl
    · rw [ends, becomes]

/-! The loop. -/

/-- What there is to say of a queue that was emptied in the store `s`, where `live` were its live
tickets. -/
structure Drained (loop : Drain) (live : List Delivery) (result : List Delivery × DrainEnd × Store) :
    Prop where
  ends : result.2.1 = .exhausted
  /-- Each ticket is handed out once, in its order. -/
  delivered : List.Forall₂ (fun d got => ∃ token, got = loop.handOut token d) (loop.takes live)
    result.1
  left : result.2.2.liveTickets loop.consumer.queue loop.now = loop.leaves live

theorem drained_of_rounds (limit : Nat) {steps : List Step} (fresh : Nat → Fresh)
    (enough : ((run .empty steps).liveTickets loop.consumer.queue loop.now).length < limit) :
    Drained loop ((run .empty steps).liveTickets loop.consumer.queue loop.now)
      (loop.rounds limit fresh (run .empty steps)) := by
  -- The induction is on the rounds; each takes one ticket off the list.
  induction limit generalizing steps fresh with
  | zero => cases enough
  | succ limit ih =>
    cases next_of_ascending rfl (ascending_liveTickets (keyed_tickets_run steps)) with
    | nothing none takes leaves =>
      rw [rounds, takeNext_of_none none]
      exact ⟨rfl, by rw [takes]; exact .nil, leaves.symm⟩
    | @first d found mem takes leaves =>
      obtain ⟨got, t, token, more, is, claims, commits, live⟩ :=
        round_of_found (fresh 0) (fresh 1) found mem
      rw [rounds, claims]
      simp only [commits]
      have fewer : ((run .empty (steps ++ more)).liveTickets loop.consumer.queue
          loop.now).length < limit := by
        rw [live]
        have shorter : (((run .empty steps).liveTickets loop.consumer.queue loop.now).filter
            fun e => e ≠ d).length < ((run .empty steps).liveTickets loop.consumer.queue
              loop.now).length := List.length_filter_lt_length_iff_exists.2 ⟨d, mem, by simp⟩
        omega
      have rest := ih (fun n => fresh (n + 2)) fewer
      rw [live] at rest
      exact ⟨rest.ends, by rw [takes]; exact .cons ⟨_, is⟩ rest.delivered, rest.left.trans leaves.symm⟩

theorem takes_sublist (live : List Delivery) : (loop.takes live).Sublist live := by
  unfold takes
  split
  · exact List.takeWhile_sublist _
  · exact List.filter_sublist

end Drain

/-- A consumer that empties its queue alone comes to the end of it, and is never refused. With `live`
for the live tickets of the queue in their order, it is handed out at most as many tickets as there are,
none of them twice: those that can be claimed, or where the queue is served in order those before the
first that cannot. -/
theorem drain_exact (loop : Drain) (steps : List Step) (fresh : Nat → Fresh) (spare : Nat) :
    let live := (run .empty steps).liveTickets loop.consumer.queue loop.now
    let result := loop.rounds (live.length + 1 + spare) fresh (run .empty steps)
    (live.Pairwise Delivery.precedes ∧ ∀ d, d ∈ live ↔
      Queued (run .empty steps) loop.consumer.queue d ∧ d.ticket.state.isTerminal = false ∧
        d.message.isExpired loop.now = false) ∧
    result.2.1 = .exhausted ∧ result.1.length ≤ live.length ∧
    (result.1.map fun got => got.ticket.id).Nodup ∧
    List.Forall₂ (fun d got => ∃ token, got = loop.handOut token d) (loop.takes live) result.1 ∧
    result.2.2.liveTickets loop.consumer.queue loop.now = loop.leaves live := by
  intro live result
  have keyed := keyed_tickets_run steps
  have drained := Drain.drained_of_rounds (live.length + 1 + spare) fresh
    (show live.length < live.length + 1 + spare by omega)
  have ids : List.Forall₂ (· = ·) ((loop.takes live).map fun d => d.ticket.id)
      (result.1.map fun got => got.ticket.id) := by
    rw [List.forall₂_map_left_iff, List.forall₂_map_right_iff]
    refine drained.delivered.imp ?_
    rintro d _ ⟨token, rfl⟩
    rfl
  rw [List.forall₂_eq_eq_eq] at ids
  refine ⟨⟨ascending_liveTickets keyed, fun d => mem_liveTickets_iff_queued keyed⟩, drained.ends,
    ?_, ?_, drained.delivered, drained.left⟩
  · rw [← drained.delivered.length_eq]
    exact (Drain.takes_sublist live).length_le
  · rw [← ids]
    exact List.Nodup.sublist ((Drain.takes_sublist live).map _)
      (List.pairwise_map.2 (distinct_liveTickets keyed))

end MessageBus.Store
