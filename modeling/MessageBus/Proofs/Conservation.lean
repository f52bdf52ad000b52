import Mathlib.Algebra.GroupWithZero.Nat
import MessageBus.Proofs.TicketStep

/-! Messages and tickets are neither lost nor duplicated. What a ticket is for never changes, and no
call takes a ticket away, so that the tickets of a store are those of the receipts of its run, in
order. From this come the tickets of each message and their number in each queue. -/
namespace MessageBus

/-! The targets of a publication. -/

theorem firstRepeated?_eq_none_iff (seen targets : List QueueRef) :
    firstRepeated? seen targets = none ↔ targets.Nodup ∧ ∀ queue ∈ targets, queue ∉ seen := by
  induction targets generalizing seen with
  | nil => simp [firstRepeated?]
  | cons queue targets ih =>
    rw [firstRepeated?]
    by_cases known : queue ∈ seen
    · simp [known]
    · rw [if_neg known, ih, List.nodup_cons]
      constructor
      · rintro ⟨distinct, fresh⟩
        refine ⟨⟨fun again => fresh queue again List.mem_cons_self, distinct⟩, ?_⟩
        rintro q mem
        rcases List.mem_cons.1 mem with rfl | mem
        · exact known
        · exact fun h => fresh q mem (List.mem_cons_of_mem _ h)
      · rintro ⟨⟨single, distinct⟩, fresh⟩
        refine ⟨distinct, ?_⟩
        rintro q mem h
        rcases List.mem_cons.1 h with rfl | h
        · exact single mem
        · exact fresh q (List.mem_cons_of_mem _ mem) h

theorem validateTargets_eq_ok_iff (targets : List QueueRef) :
    validateTargets targets = .ok () ↔ targets ≠ [] ∧ targets.Nodup := by
  have distinct := firstRepeated?_eq_none_iff [] targets
  unfold validateTargets
  cases targets with
  | nil => simp
  | cons queue targets =>
    cases repeated : firstRepeated? [] (queue :: targets) with
    | none => simpa using (distinct.1 repeated).1
    | some again =>
      rw [repeated] at distinct
      simpa using distinct

/-- What never changes about a ticket: its message, its queue and its identifier. -/
abbrev Label := MessageId × QueueRef × TicketId

def Ticket.label (t : Ticket) : Label := (t.message, t.queue, t.id)

namespace Store

/-- The labels that the receipt of a publication gives. -/
def Call.labelsMade : (call : Call) → Except StoreError call.Answer → List Label
  | .publish message _, .ok receipt => receipt.tickets.map fun made => (message.id, made)
  | _, _ => []

def Step.labelsMade (step : Step) (s : Store) : List Label := step.call.labelsMade (step.answer s)

/-- The labels of all receipts of a run, in order. -/
def labelsMade (s : Store) : List Step → List Label
  | [] => []
  | step :: rest => step.labelsMade s ++ (s.after step).labelsMade rest

theorem labelsMade_append (s : Store) (xs ys : List Step) :
    s.labelsMade (xs ++ ys) = s.labelsMade xs ++ (s.run xs).labelsMade ys := by
  induction xs generalizing s with
  | nil => rfl
  | cons step xs ih => simp [labelsMade, ih]

/-! One step. -/

theorem map_id_freshTickets (fresh : Fresh) (message : MessageId) (targets : List QueueRef) :
    (freshTickets fresh message targets).map Ticket.id =
      (List.range targets.length).map fresh.ticket := by
  have positions : targets.zipIdx.map Prod.snd = List.range targets.length := by
    simp [List.range_eq_range']
  rw [← positions, freshTickets, List.map_map, List.map_map]
  rfl

theorem map_queue_freshTickets (fresh : Fresh) (message : MessageId) (targets : List QueueRef) :
    (freshTickets fresh message targets).map Ticket.queue = targets := by
  have queues : targets.zipIdx.map Prod.fst = targets := by simp
  rw [freshTickets, List.map_map]
  exact queues

theorem values_foldl_insert {tickets : List Ticket} {table : Table TicketId Ticket}
    (distinct : (tickets.map Ticket.id).Nodup) (new : ∀ t ∈ tickets, table.get? t.id = none) :
    (tickets.foldl (fun table t => table.insert t.id t) table).values = table.values ++ tickets := by
  induction tickets generalizing table with
  | nil => simp
  | cons t tickets ih =>
    rw [List.map_cons, List.nodup_cons] at distinct
    have still : ∀ u ∈ tickets, (table.insert t.id t).get? u.id = none := by
      intro u mem
      have other : u.id ≠ t.id := fun same => distinct.1 (same ▸ List.mem_map_of_mem mem)
      rw [Table.get?_insert, if_neg other]
      exact new u (List.mem_cons_of_mem _ mem)
    rw [List.foldl_cons, ih distinct.2 still, Table.values_insert_of_new (new t List.mem_cons_self),
      List.append_assoc]
    rfl

theorem labelsMade_publish {s : Store} {message : Message} {targets : List QueueRef}
    (publishable : s.Publishable message targets) (fresh : Fresh) :
    Step.labelsMade ⟨fresh, .publish message targets⟩ s =
      (freshTickets fresh message.id targets).map Ticket.label := by
  have answer : Step.answer ⟨fresh, .publish message targets⟩ s = .ok _ :=
    congrArg Prod.fst (publish_of_publishable publishable fresh)
  rw [Step.labelsMade, answer]
  change ((freshTickets fresh message.id targets).map fun t => (t.queue, t.id)).map _ = _
  rw [List.map_map]
  refine List.map_congr_left fun t mem => ?_
  obtain ⟨i, -, queue, -, rfl⟩ := mem_freshTickets mem
  rfl

theorem issuedTickets_publish {s : Store} {message : Message} {targets : List QueueRef}
    (publishable : s.Publishable message targets) (fresh : Fresh) :
    Step.issuedTickets ⟨fresh, .publish message targets⟩ s =
      (freshTickets fresh message.id targets).map Ticket.id := by
  have answer : Step.answer ⟨fresh, .publish message targets⟩ s = .ok _ :=
    congrArg Prod.fst (publish_of_publishable publishable fresh)
  rw [map_id_freshTickets, Step.issuedTickets, answer]
  rfl

/-- Only a publication makes tickets. Every other call leaves the table as it is, or writes to one
row and keeps its label. -/
theorem tickets_after (s : Store) (fresh : Fresh) {call : Call}
    (other : ∀ message targets, call ≠ .publish message targets) :
    (s.after ⟨fresh, call⟩).tickets = s.tickets ∨
      ∃ id row later, s.tickets.get? id = some row ∧ later.label = row.label ∧
        (s.after ⟨fresh, call⟩).tickets = s.tickets.insert id later := by
  cases delivery : call.isDelivery with
  | false => exact .inl (perform_sameDeliveries delivery s fresh).tickets
  | true =>
    rcases delivery_cases delivery s fresh with same | ⟨message, targets, is, -⟩ |
      ⟨id, row, later, stored, ids, queues, messages, becomes⟩
    · exact .inl (congrArg tickets same)
    · exact absurd is (other message targets)
    · refine .inr ⟨id, row, later, stored, ?_, congrArg tickets becomes⟩
      rw [Ticket.label, ids, queues, messages]
      rfl

/-- A step adds the tickets of its receipt to those that are there. -/
theorem labels_after {s : Store} {step : Step} (distinct : (step.issuedTickets s).Nodup)
    (new : ∀ id ∈ step.issuedTickets s, s.tickets.get? id = none) :
    (s.after step).tickets.values.map Ticket.label =
      s.tickets.values.map Ticket.label ++ step.labelsMade s := by
  obtain ⟨fresh, call⟩ := step
  by_cases publishes : ∃ message targets, call = .publish message targets
  · obtain ⟨message, targets, rfl⟩ := publishes
    rcases publish_cases s fresh message targets with publishable | ⟨e, refused⟩
    · rw [labelsMade_publish publishable, ← List.map_append]
      rw [issuedTickets_publish publishable] at distinct new
      have done := publish_of_publishable publishable fresh
      have values := values_foldl_insert distinct fun t mem => new t.id (List.mem_map_of_mem mem)
      exact congrArg (List.map Ticket.label) ((congrArg (·.2.tickets.values) done).trans values)
    · have answer : Step.answer ⟨fresh, .publish message targets⟩ s = .error e :=
        congrArg Prod.fst refused
      have same : (s.after ⟨fresh, .publish message targets⟩).tickets = s.tickets :=
        congrArg (·.2.tickets) refused
      rw [Step.labelsMade, answer, same]
      exact (List.append_nil _).symm
  · have other : ∀ message targets, call ≠ .publish message targets :=
      fun message targets same => publishes ⟨message, targets, same⟩
    have none : Step.labelsMade ⟨fresh, call⟩ s = [] := by
      cases call with
      | publish message targets => exact absurd rfl (other message targets)
      | _ => rfl
    rw [none, List.append_nil]
    rcases tickets_after s fresh other with same | ⟨id, row, later, stored, label, becomes⟩
    · rw [same]
    · rw [becomes, Table.map_values_insert_of_same stored label]

/-- Where no ticket identifier comes twice, the last step gives out new ones. -/
theorem issued_anew {steps : List Step} {step : Step}
    (ids : (issuedTickets .empty (steps ++ [step])).Nodup) :
    (step.issuedTickets (run .empty steps)).Nodup ∧
      ∀ id ∈ step.issuedTickets (run .empty steps), (run .empty steps).tickets.get? id = none := by
  have whole : issuedTickets .empty (steps ++ [step]) =
      issuedTickets .empty steps ++ step.issuedTickets (run .empty steps) := by
    simp [issuedTickets_append, issuedTickets]
  rw [whole] at ids
  refine ⟨(List.nodup_append.1 ids).2.1, fun id made => ?_⟩
  cases stored : (run .empty steps).tickets.get? id with
  | none => rfl
  | some row =>
    obtain ⟨-, known, -⟩ := givenOut_run steps id row stored
    exact absurd made (not_mem_of_nodup_append ids known)

/-- Where no ticket identifier comes twice, the tickets of a store are those of its receipts. -/
theorem labels_run (steps : List Step) (ids : (issuedTickets .empty steps).Nodup) :
    (run .empty steps).tickets.values.map Ticket.label = labelsMade .empty steps := by
  revert ids
  refine run_induction (P := fun steps s => (issuedTickets .empty steps).Nodup →
    s.tickets.values.map Ticket.label = labelsMade .empty steps) (fun _ => rfl) ?_ steps
  intro steps step ih ids
  obtain ⟨distinct, new⟩ := issued_anew ids
  rw [labels_after distinct new, ih (nodup_issuedTickets ids), labelsMade_append]
  simp [labelsMade]

/-! The tickets of one message. -/

/-- Of a message that is stored no more tickets are made. -/
theorem ne_of_mem_labelsMade {s : Store} {id : MessageId} {stored : Message}
    (there : s.messages.get? id = some stored) {steps : List Step} {label : Label}
    (made : label ∈ s.labelsMade steps) : label.1 ≠ id := by
  induction steps generalizing s with
  | nil => cases made
  | cons step steps ih =>
    rw [labelsMade, List.mem_append] at made
    rcases made with now | later
    · obtain ⟨fresh, call⟩ := step
      cases call with
      | publish message targets =>
        rcases publish_cases s fresh message targets with publishable | ⟨e, refused⟩
        · rw [labelsMade_publish publishable] at now
          obtain ⟨t, mem, rfl⟩ := List.mem_map.1 now
          obtain ⟨i, -, queue, -, rfl⟩ := mem_freshTickets mem
          rintro rfl
          exact absurd (publishable.new.symm.trans there) (Option.some_ne_none _).symm
        · have answer : Step.answer ⟨fresh, .publish message targets⟩ s = .error e :=
            congrArg Prod.fst refused
          rw [Step.labelsMade, answer] at now
          cases now
      | _ => cases now
    · exact ih (message_after there step) later

/-- A run that has not stored a message has made no tickets of it. -/
theorem ne_of_not_stored {steps : List Step} (ids : (issuedTickets .empty steps).Nodup)
    {id : MessageId} (absent : (run .empty steps).messages.get? id = none) {label : Label}
    (made : label ∈ labelsMade .empty steps) : label.1 ≠ id := by
  rw [← labels_run steps ids] at made
  obtain ⟨t, listed, rfl⟩ := List.mem_map.1 made
  obtain ⟨key, stored⟩ := (Table.mem_values_iff _ _).1 listed
  obtain ⟨message, there⟩ := referenced_run steps key t stored
  rintro rfl
  exact absurd (absent.symm.trans there) (Option.some_ne_none _).symm

/-- Of all tickets that a run makes, those of a message are the ones of its publication. -/
theorem filter_labelsMade {before later : List Step} {fresh : Fresh} {message : Message}
    {targets : List QueueRef} {receipt : PublishReceipt}
    (ids : (issuedTickets .empty (before ++ ⟨fresh, .publish message targets⟩ :: later)).Nodup)
    (published : ((run .empty before).publish fresh message targets).1 = .ok receipt) :
    (labelsMade .empty (before ++ ⟨fresh, .publish message targets⟩ :: later)).filter
        (fun label => label.1 == message.id) =
      receipt.tickets.map fun made => (message.id, made) := by
  have publishable := publishable_of_publish published
  have answer : Step.answer ⟨fresh, .publish message targets⟩ (run .empty before) = .ok receipt :=
    published
  have made : Step.labelsMade ⟨fresh, .publish message targets⟩ (run .empty before) =
      receipt.tickets.map fun made => (message.id, made) := by
    rw [Step.labelsMade, answer]
    rfl
  have there : ((run .empty before).after ⟨fresh, .publish message targets⟩).messages.get?
      message.id = some message :=
    (congrArg (·.2.messages.get? message.id) (publish_of_publishable publishable fresh)).trans
      (Table.get?_insert_self _ _ _)
  have noneBefore : (labelsMade .empty before).filter (fun label => label.1 == message.id) = [] := by
    rw [issuedTickets_append] at ids
    refine List.filter_eq_nil_iff.2 fun label mem => ?_
    simpa using ne_of_not_stored (List.nodup_append.1 ids).1 publishable.new mem
  have noneAfter : (((run .empty before).after ⟨fresh, .publish message targets⟩).labelsMade
      later).filter (fun label => label.1 == message.id) = [] := by
    refine List.filter_eq_nil_iff.2 fun label mem => ?_
    simpa using ne_of_mem_labelsMade there mem
  have all : (receipt.tickets.map fun made => (message.id, made)).filter
      (fun label => label.1 == message.id) = receipt.tickets.map fun made => (message.id, made) := by
    refine List.filter_eq_self.2 fun label mem => ?_
    obtain ⟨pair, -, rfl⟩ := List.mem_map.1 mem
    exact beq_self_eq_true _
  rw [labelsMade_append, labelsMade, made, List.filter_append, List.filter_append, noneBefore,
    noneAfter, all, List.append_nil, List.nil_append]

theorem map_label_ticketsForMessage (s : Store) (id : MessageId) :
    ((s.ticketsForMessage id).map Ticket.label).Perm
      ((s.tickets.values.map Ticket.label).filter fun label => label.1 == id) := by
  rw [List.filter_map]
  exact (List.mergeSort_perm _ _).map _

/-- What a store still has of a publication after everything that came later. -/
structure Conserved (s : Store) (message : Message) (targets : List QueueRef)
    (receipt : PublishReceipt) : Prop where
  unchanged : s.messages.get? message.id = some message
  named : receipt.message = message.id ∧ receipt.tickets.map Prod.fst = targets
  distinct : targets.Nodup
  /-- The tickets of the message are those of the receipt, each one once. -/
  tickets : ((s.ticketsForMessage message.id).map Ticket.label).Perm
    (receipt.tickets.map fun made => (message.id, made))
  stored : ∀ t ∈ s.ticketsForMessage message.id, s.tickets.get? t.id = some t

theorem conserved_run {before later : List Step} {fresh : Fresh} {message : Message}
    {targets : List QueueRef} {receipt : PublishReceipt}
    (ids : (issuedTickets .empty (before ++ ⟨fresh, .publish message targets⟩ :: later)).Nodup)
    (published : ((run .empty before).publish fresh message targets).1 = .ok receipt) :
    Conserved (run .empty (before ++ ⟨fresh, .publish message targets⟩ :: later)) message targets
      receipt where
  unchanged := by
    have done := publish_of_publishable (publishable_of_publish published) fresh
    rw [run_append, run_cons]
    refine message_run ?_ later
    exact (congrArg (·.2.messages.get? message.id) done).trans (Table.get?_insert_self _ _ _)
  named := by
    have done := publish_of_publishable (publishable_of_publish published) fresh
    cases published.symm.trans (congrArg Prod.fst done)
    refine ⟨rfl, ?_⟩
    rw [List.map_map]
    exact map_queue_freshTickets fresh message.id targets
  distinct := ((validateTargets_eq_ok_iff targets).1 (publishable_of_publish published).valid).2
  tickets := by
    rw [← filter_labelsMade ids published, ← labels_run _ ids]
    exact map_label_ticketsForMessage _ _
  stored := by
    intro t mem
    have listed := (List.mergeSort_perm _ _).mem_iff.1 mem
    obtain ⟨id, stored⟩ := (Table.mem_values_iff _ _).1 (List.mem_filter.1 listed).1
    obtain ⟨rfl, -, -⟩ := givenOut_run _ id t stored
    exact stored

/-! The tickets of one queue. -/

theorem sum_filterMap_counts (count : TicketState → Nat) (states : List TicketState) :
    ((states.filterMap fun state =>
      match count state with
      | 0 => none
      | n => some (state, n)).map Prod.snd).sum = (states.map count).sum := by
  induction states with
  | nil => rfl
  | cons state states ih =>
    rw [List.filterMap_cons, List.map_cons, List.sum_cons, ← ih]
    cases count state with
    | zero => simp
    | succ n => simp

/-- Every ticket is in one state. -/
theorem sum_countP_state (tickets : List Ticket) :
    (TicketState.all.map fun state => tickets.countP fun t => t.state == state).sum =
      tickets.length := by
  induction tickets with
  | nil => rfl
  | cons t tickets ih =>
    simp only [TicketState.all, List.map_cons, List.map_nil, List.sum_cons, List.sum_nil,
      List.countP_cons, List.length_cons] at ih ⊢
    cases t.state <;> simp <;> omega

theorem sum_countByState (s : Store) (queue : QueueRef) :
    ((s.countByState queue).map Prod.snd).sum =
      (s.tickets.values.map Ticket.label).countP fun label => label.2.1 == queue := by
  let tickets := s.tickets.values.filter fun t => t.queue == queue
  let count (state : TicketState) := tickets.countP fun t => t.state == state
  have counts : ((s.countByState queue).map Prod.snd).sum = (TicketState.all.map count).sum :=
    sum_filterMap_counts count TicketState.all
  rw [counts, sum_countP_state, ← List.countP_eq_length_filter, List.countP_map]
  rfl

/-- Whether a call published a message to the queue. -/
def Call.publishedTo (queue : QueueRef) : (call : Call) → Except StoreError call.Answer → Bool
  | .publish _ targets, .ok _ => decide (queue ∈ targets)
  | _, _ => false

def publishesTo (queue : QueueRef) (s : Store) (step : Step) : Bool :=
  step.call.publishedTo queue (step.answer s)

theorem countP_labelsMade_step (queue : QueueRef) (s : Store) (step : Step) :
    (step.labelsMade s).countP (fun label => label.2.1 == queue) =
      if publishesTo queue s step then 1 else 0 := by
  obtain ⟨fresh, call⟩ := step
  cases call with
  | publish message targets =>
    rcases publish_cases s fresh message targets with publishable | ⟨e, refused⟩
    · have answer : Step.answer ⟨fresh, .publish message targets⟩ s = .ok _ :=
        congrArg Prod.fst (publish_of_publishable publishable fresh)
      have distinct := ((validateTargets_eq_ok_iff targets).1 publishable.valid).2
      have queues : ((freshTickets fresh message.id targets).map Ticket.label).countP
          (fun label => label.2.1 == queue) = targets.count queue := by
        refine Eq.trans ?_ (congrArg (List.count queue)
          (map_queue_freshTickets fresh message.id targets))
        rw [List.countP_map, List.count, List.countP_map]
        rfl
      rw [labelsMade_publish publishable, queues, publishesTo, answer, distinct.count]
      simp [Call.publishedTo]
    · have answer : Step.answer ⟨fresh, .publish message targets⟩ s = .error e :=
        congrArg Prod.fst refused
      rw [Step.labelsMade, publishesTo, answer]
      rfl
  | _ => rfl

theorem countP_labelsMade (queue : QueueRef) (s : Store) (steps : List Step) :
    (s.labelsMade steps).countP (fun label => label.2.1 == queue) =
      countAlong (publishesTo queue) s steps := by
  induction steps generalizing s with
  | nil => rfl
  | cons step steps ih =>
    rw [labelsMade, List.countP_append, countP_labelsMade_step, ih, countAlong]

/-- No message is lost or duplicated: of every publication the store keeps the message as it was
published and one ticket for each target, and a queue has as many tickets as publications went to
it. -/
theorem messages_conserved {steps : List Step} (ids : (issuedTickets .empty steps).Nodup) :
    (∀ before fresh message targets later receipt,
      steps = before ++ ⟨fresh, .publish message targets⟩ :: later →
      ((run .empty before).publish fresh message targets).1 = .ok receipt →
      Conserved (run .empty steps) message targets receipt) ∧
    ∀ queue, (((run .empty steps).countByState queue).map Prod.snd).sum =
      countAlong (publishesTo queue) .empty steps := by
  constructor
  · rintro before fresh message targets later receipt rfl published
    exact conserved_run ids published
  · intro queue
    rw [sum_countByState, labels_run steps ids, countP_labelsMade]

/-- The message is claimed, and a second publication of it fails. -/
def publishedAgain : List Step := oneTicket ++ [firstClaim,
  ⟨freshFrom 3000, .publish oneMessage [.subscriber ⟨.ofNat 5⟩]⟩]

theorem messages_conserved_publishedAgain :
    (issuedTickets .empty publishedAgain).Nodup ∧
    ((run .empty (oneTicket.take 7)).publish (freshFrom 1000) oneMessage
      [.subscriber ⟨.ofNat 5⟩]).1 = .ok ⟨oneMessage.id, [(.subscriber ⟨.ofNat 5⟩, ⟨.ofNat 1000⟩)]⟩ ∧
    Conserved (run .empty publishedAgain) oneMessage [.subscriber ⟨.ofNat 5⟩]
      ⟨oneMessage.id, [(.subscriber ⟨.ofNat 5⟩, ⟨.ofNat 1000⟩)]⟩ ∧
    (((run .empty publishedAgain).countByState (.subscriber ⟨.ofNat 5⟩)).map Prod.snd).sum = 1 := by
  have ids : (issuedTickets .empty publishedAgain).Nodup := by decide +kernel
  have published : ((run .empty (oneTicket.take 7)).publish (freshFrom 1000) oneMessage
      [.subscriber ⟨.ofNat 5⟩]).1 =
      .ok ⟨oneMessage.id, [(.subscriber ⟨.ofNat 5⟩, ⟨.ofNat 1000⟩)]⟩ := rfl
  obtain ⟨conserved, counted⟩ := messages_conserved ids
  refine ⟨ids, published, conserved _ _ _ _ _ _ rfl published, ?_⟩
  rw [counted]
  decide +kernel

end Store
end MessageBus
