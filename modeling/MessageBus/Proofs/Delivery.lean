import MessageBus.Proofs.Registration

/-! What each call does to messages and tickets. Publishing, claims, commits and signs of life have
one lemma for each way in which they can end. Every call has its part of the store to which it writes,
and so every other call leaves both tables as they are. -/
namespace MessageBus.Store

/-- The calls that write messages or tickets. -/
def Call.isDelivery : Call → Bool
  | .publish .. | .tryClaim .. | .commit .. | .heartbeat .. => true
  | _ => false

/-! Publishing. -/

theorem mem_freshTickets {fresh : Fresh} {message : MessageId} {targets : List QueueRef}
    {t : Ticket} (h : t ∈ freshTickets fresh message targets) :
    ∃ i < targets.length, ∃ queue ∈ targets,
      t = .fresh (fresh.ticket i) (fresh.token i) queue message := by
  obtain ⟨⟨queue, i⟩, mem, rfl⟩ := List.mem_map.1 h
  obtain ⟨-, below, at_i⟩ := List.mem_zipIdx mem
  refine ⟨i, by omega, queue, ?_, rfl⟩
  rw [at_i]
  exact List.getElem_mem _

/-- A ticket table after new tickets were put in: under an identifier there is one of them, or what
was there before. -/
theorem get?_foldl_insert (tickets : List Ticket) (table : Table TicketId Ticket)
    (id : TicketId) :
    (∃ t ∈ tickets, t.id = id ∧
      (tickets.foldl (fun table t => table.insert t.id t) table).get? id = some t) ∨
    ((∀ t ∈ tickets, t.id ≠ id) ∧
      (tickets.foldl (fun table t => table.insert t.id t) table).get? id = table.get? id) := by
  induction tickets generalizing table with
  | nil => exact .inr ⟨by simp, rfl⟩
  | cons t tickets ih =>
    rcases ih (table.insert t.id t) with ⟨u, mem, same, found⟩ | ⟨others, found⟩
    · exact .inl ⟨u, List.mem_cons_of_mem _ mem, same, found⟩
    · rw [Table.get?_insert] at found
      by_cases h : id = t.id
      · rw [if_pos h] at found
        exact .inl ⟨t, List.mem_cons_self, h.symm, found⟩
      · rw [if_neg h] at found
        refine .inr ⟨?_, found⟩
        rintro u mem same
        rcases List.mem_cons.1 mem with rfl | mem
        · exact h same.symm
        · exact others u mem same

/-- The store after a message was published. -/
def published (s : Store) (fresh : Fresh) (message : Message) (targets : List QueueRef) : Store :=
  { s with
    messages := s.messages.insert message.id message
    tickets := (freshTickets fresh message.id targets).foldl
      (fun table t => table.insert t.id t) s.tickets }

/-- What must hold for a message to be published to some queues. -/
structure Publishable (s : Store) (message : Message) (targets : List QueueRef) : Prop where
  valid : validateTargets targets = .ok ()
  new : s.messages.get? message.id = none
  messageType : ∃ row, s.messageTypes.get? message.messageType = some row
  publisher : ∃ row, s.publisherInstances.get? message.publisherInstance = some row
  queues : ∀ queue ∈ targets, s.hasQueue queue = true

theorem publish_of_publishable {s : Store} {message : Message} {targets : List QueueRef}
    (h : s.Publishable message targets) (fresh : Fresh) :
    s.publish fresh message targets =
      (.ok ⟨message.id, (freshTickets fresh message.id targets).map fun t => (t.queue, t.id)⟩,
        s.published fresh message targets) := by
  obtain ⟨valid, new, ⟨type, messageType⟩, ⟨publisher, publishers⟩, queues⟩ := h
  have missing : (targets.find? fun queue => !s.hasQueue queue) = none := by simpa using queues
  rw [publish, valid, require_eq_ok_iff.2 messageType, require_eq_ok_iff.2 publishers, missing]
  simp [Table.contains, new, bind, Except.bind, pure, Except.pure, published]

theorem publishable_of_publish {s : Store} {fresh : Fresh} {message : Message}
    {targets : List QueueRef} {receipt : PublishReceipt}
    (h : (s.publish fresh message targets).1 = .ok receipt) : s.Publishable message targets := by
  unfold publish attempt at h
  split at h
  · next ok =>
    simp only [bind, Except.bind, pure, Except.pure, throw, throwThe, MonadExceptOf.throw] at ok
    -- One case for each check of a publication, in their order.
    split at ok
    · cases ok
    next valid =>
    split at ok
    · cases ok
    next new =>
    split at ok
    · cases ok
    next messageType =>
    split at ok
    · cases ok
    next publisher =>
    split at ok
    · cases ok
    next queues =>
    refine ⟨valid, ?_, ⟨_, require_eq_ok_iff.1 messageType⟩, ⟨_, require_eq_ok_iff.1 publisher⟩, ?_⟩
    · simpa [Table.contains] using new
    · simpa using (Option.eq_none_iff_forall_ne_some.2 queues : _ = none)
  · cases h

theorem publish_cases (s : Store) (fresh : Fresh) (message : Message) (targets : List QueueRef) :
    s.Publishable message targets ∨ ∃ e, s.publish fresh message targets = (.error e, s) := by
  cases h : (s.publish fresh message targets).1 with
  | error e => exact .inr ⟨e, Prod.ext h (attempt_unchanged h)⟩
  | ok receipt => exact .inl (publishable_of_publish h)

/-! Claims. -/

theorem acceptsClaim_eq_true_iff {row : Ticket} {observed : ConcurrencyToken} {timeout : Duration}
    {now : Instant} :
    row.acceptsClaim observed timeout now = true ↔
      row.state.isTerminal = false ∧ (row.owner = none ∨ row.token = observed) ∧
      (row.state ≠ .inProgress ∨ row.isStale timeout now = true) := by
  simp [Ticket.acceptsClaim, and_assoc]

section
variable {s : Store} {candidate : Ticket} {consumer : Consumer} {timeout : Duration}
variable {now : Instant} {row : Ticket}

theorem tryClaim_of_wrongQueue (h : candidate.queue ≠ consumer.queue) (fresh : Fresh) :
    s.tryClaim fresh candidate consumer timeout now =
      (.error (wrongQueue candidate consumer), s) := by
  rw [tryClaim, if_pos h]

theorem tryClaim_of_missing (queue : candidate.queue = consumer.queue)
    (missing : s.tickets.get? candidate.id = none) (fresh : Fresh) :
    s.tryClaim fresh candidate consumer timeout now = (.ok (.lost candidate.id), s) := by
  rw [tryClaim, if_neg (not_not_intro queue), missing]

theorem tryClaim_of_refused (queue : candidate.queue = consumer.queue)
    (stored : s.tickets.get? candidate.id = some row)
    (refused : row.acceptsClaim candidate.token timeout now = false) (fresh : Fresh) :
    s.tryClaim fresh candidate consumer timeout now = (.ok (.lost candidate.id), s) := by
  simp [tryClaim, queue, stored, refused]

theorem tryClaim_of_accepted (queue : candidate.queue = consumer.queue)
    (stored : s.tickets.get? candidate.id = some row)
    (accepted : row.acceptsClaim candidate.token timeout now = true) (fresh : Fresh) :
    s.tryClaim fresh candidate consumer timeout now =
      ((require s.messages "message" row.message).map fun message =>
          .claimed ⟨row.claimedBy consumer.instanceUuid (fresh.token 0) now, message⟩,
        { s with
          tickets := s.tickets.insert candidate.id
            (row.claimedBy consumer.instanceUuid (fresh.token 0) now) }) := by
  simp only [tryClaim, queue, stored, accepted, ne_eq, not_true_eq_false, if_false, if_true]
  rfl

/-- A claim takes a ticket that is there and accepts it, and changes nothing otherwise. -/
theorem tryClaim_cases (s : Store) (fresh : Fresh) (candidate : Ticket) (consumer : Consumer)
    (timeout : Duration) (now : Instant) :
    (∃ row, candidate.queue = consumer.queue ∧ s.tickets.get? candidate.id = some row ∧
      row.acceptsClaim candidate.token timeout now = true) ∨
    s.tryClaim fresh candidate consumer timeout now =
      (.error (wrongQueue candidate consumer), s) ∨
    s.tryClaim fresh candidate consumer timeout now = (.ok (.lost candidate.id), s) := by
  by_cases queue : candidate.queue = consumer.queue
  · cases stored : s.tickets.get? candidate.id with
    | none => exact .inr (.inr (tryClaim_of_missing queue stored fresh))
    | some row =>
      cases accepted : row.acceptsClaim candidate.token timeout now with
      | false => exact .inr (.inr (tryClaim_of_refused queue stored accepted fresh))
      | true => exact .inl ⟨row, queue, rfl, accepted⟩
  · exact .inr (.inl (tryClaim_of_wrongQueue queue fresh))

theorem accepted_of_claimed {fresh : Fresh} {delivery : Delivery}
    (h : (s.tryClaim fresh candidate consumer timeout now).1 = .ok (.claimed delivery)) :
    ∃ row, candidate.queue = consumer.queue ∧ s.tickets.get? candidate.id = some row ∧
      row.acceptsClaim candidate.token timeout now = true ∧
      s.messages.get? row.message = some delivery.message ∧
      delivery.ticket = row.claimedBy consumer.instanceUuid (fresh.token 0) now := by
  rcases tryClaim_cases s fresh candidate consumer timeout now with
    ⟨row, queue, stored, accepted⟩ | refused | lost
  · refine ⟨row, queue, stored, accepted, ?_⟩
    rw [tryClaim_of_accepted queue stored accepted] at h
    cases found : require s.messages "message" row.message with
    | error e => rw [found] at h; cases h
    | ok message =>
      rw [found] at h
      cases h
      exact ⟨require_eq_ok_iff.1 found, rfl⟩
  · rw [refused] at h; cases h
  · rw [lost] at h; cases h

end

/-! Commits and signs of life. -/

theorem heldTicket?_eq_some_iff {s : Store} {consumer : Consumer} {ticket : TicketId}
    {token : ConcurrencyToken} {row : Ticket} :
    s.heldTicket? consumer ticket token = some row ↔
      s.tickets.get? ticket = some row ∧ row.isHeldBy consumer token = true := by
  simp [heldTicket?, Option.filter_eq_some_iff]

theorem heldTicket?_eq_none_of_stored {s : Store} {consumer : Consumer} {ticket : TicketId}
    {token : ConcurrencyToken} {row : Ticket} (stored : s.tickets.get? ticket = some row)
    (h : row.isHeldBy consumer token = false) : s.heldTicket? consumer ticket token = none := by
  simp [heldTicket?, stored, h]

theorem ensureMove_eq_ok_iff {origin target : TicketState} :
    TicketState.ensureMove origin target = .ok () ↔ origin.canMoveTo target = true := by
  unfold TicketState.ensureMove
  split <;> simp_all

section
variable {s : Store} {consumer : Consumer} {ticket : TicketId} {token : ConcurrencyToken}
variable {update : TicketUpdate} {now : Instant} {row : Ticket}

theorem commit_of_invalid (h : TicketState.inProgress.canMoveTo update.state = false)
    (fresh : Fresh) : ∃ e, s.commit fresh consumer ticket token update now = (.error e, s) := by
  refine ⟨.domain (.invalidTransition .inProgress update.state), ?_⟩
  simp [commit, TicketState.ensureMove, h]

theorem commit_of_lost (valid : TicketState.inProgress.canMoveTo update.state = true)
    (lost : s.heldTicket? consumer ticket token = none) (fresh : Fresh) :
    s.commit fresh consumer ticket token update now = (.ok .lost, s) := by
  rw [commit, ensureMove_eq_ok_iff.2 valid, lost]

theorem commit_of_held (valid : TicketState.inProgress.canMoveTo update.state = true)
    (stored : s.tickets.get? ticket = some row) (held : row.isHeldBy consumer token = true)
    (fresh : Fresh) :
    s.commit fresh consumer ticket token update now =
      (.ok (.committed (fresh.token 0)),
        { s with tickets := s.tickets.insert ticket (row.updated update (fresh.token 0) now) }) := by
  rw [commit, ensureMove_eq_ok_iff.2 valid, heldTicket?_eq_some_iff.2 ⟨stored, held⟩]

/-- A commit goes through for the holder of the ticket, and changes nothing otherwise. -/
theorem commit_cases (s : Store) (fresh : Fresh) (consumer : Consumer) (ticket : TicketId)
    (token : ConcurrencyToken) (update : TicketUpdate) (now : Instant) :
    (∃ row, TicketState.inProgress.canMoveTo update.state = true ∧
      s.tickets.get? ticket = some row ∧ row.isHeldBy consumer token = true) ∨
    (∃ e, s.commit fresh consumer ticket token update now = (.error e, s)) ∨
    s.commit fresh consumer ticket token update now = (.ok .lost, s) := by
  cases valid : TicketState.inProgress.canMoveTo update.state with
  | false => exact .inr (.inl (commit_of_invalid valid fresh))
  | true =>
    cases held : s.heldTicket? consumer ticket token with
    | none => exact .inr (.inr (commit_of_lost valid held fresh))
    | some row =>
      obtain ⟨stored, held⟩ := heldTicket?_eq_some_iff.1 held
      exact .inl ⟨row, rfl, stored, held⟩

theorem heartbeat_of_lost (lost : s.heldTicket? consumer ticket token = none) :
    s.heartbeat consumer ticket token now = (.ok .lost, s) := by
  rw [heartbeat, lost, Option.filter_none]

theorem heartbeat_of_held (stored : s.tickets.get? ticket = some row)
    (held : row.isHeldBy consumer token = true) (working : row.state = .inProgress) :
    s.heartbeat consumer ticket token now =
      (.ok (.committed token),
        { s with tickets := s.tickets.insert ticket { row with lastAccess := some now } }) := by
  have found : (some row).filter (fun row => row.state == .inProgress) = some row := by
    simp [working]
  rw [heartbeat, heldTicket?_eq_some_iff.2 ⟨stored, held⟩, found]

theorem heartbeat_cases (s : Store) (consumer : Consumer) (ticket : TicketId)
    (token : ConcurrencyToken) (now : Instant) :
    (∃ row, s.tickets.get? ticket = some row ∧ row.isHeldBy consumer token = true ∧
      row.state = .inProgress) ∨
    s.heartbeat consumer ticket token now = (.ok .lost, s) := by
  cases held : s.heldTicket? consumer ticket token with
  | none => exact .inr (heartbeat_of_lost held)
  | some row =>
    obtain ⟨stored, holds⟩ := heldTicket?_eq_some_iff.1 held
    by_cases working : row.state = .inProgress
    · exact .inl ⟨row, stored, holds, working⟩
    · have idle : (some row).filter (fun row => row.state == .inProgress) = none := by
        simp [working]
      right
      rw [heartbeat, held, idle]

end

/-- These calls change nothing, put in a message with its tickets, or write to the row of one ticket,
which stays what it is a ticket of. -/
theorem delivery_cases {call : Call} (h : call.isDelivery = true) (s : Store) (fresh : Fresh) :
    (s.perform fresh call).2 = s ∨
    (∃ message targets, call = .publish message targets ∧ s.Publishable message targets ∧
      (s.perform fresh call).2 = s.published fresh message targets) ∨
    ∃ id row later, s.tickets.get? id = some row ∧ later.id = row.id ∧ later.queue = row.queue ∧
      later.message = row.message ∧
      (s.perform fresh call).2 = { s with tickets := s.tickets.insert id later } := by
  cases call with
  | publish message targets =>
    rcases publish_cases s fresh message targets with publishable | ⟨e, refused⟩
    · exact .inr (.inl ⟨message, targets, rfl, publishable,
        congrArg Prod.snd (publish_of_publishable publishable fresh)⟩)
    · exact .inl (congrArg Prod.snd refused)
  | tryClaim candidate consumer timeout now =>
    rcases tryClaim_cases s fresh candidate consumer timeout now with
      ⟨row, queue, stored, accepted⟩ | refused | lost
    · exact .inr (.inr ⟨candidate.id, row, row.claimedBy consumer.instanceUuid (fresh.token 0) now,
        stored, rfl, rfl, rfl, congrArg Prod.snd (tryClaim_of_accepted queue stored accepted fresh)⟩)
    · exact .inl (congrArg Prod.snd refused)
    · exact .inl (congrArg Prod.snd lost)
  | commit consumer ticket token update now =>
    rcases commit_cases s fresh consumer ticket token update now with
      ⟨row, valid, stored, held⟩ | ⟨e, refused⟩ | lost
    · exact .inr (.inr ⟨ticket, row, row.updated update (fresh.token 0) now, stored, rfl, rfl, rfl,
        congrArg Prod.snd (commit_of_held valid stored held fresh)⟩)
    · exact .inl (congrArg Prod.snd refused)
    · exact .inl (congrArg Prod.snd lost)
  | heartbeat consumer ticket token now =>
    rcases heartbeat_cases s consumer ticket token now with ⟨row, stored, held, working⟩ | lost
    · exact .inr (.inr ⟨ticket, row, { row with lastAccess := some now }, stored, rfl, rfl, rfl,
        congrArg Prod.snd (heartbeat_of_held stored held working)⟩)
    · exact .inl (congrArg Prod.snd lost)
  | _ => cases h

/-- These calls write to messages and tickets only. -/
theorem delivery_frame {call : Call} (h : call.isDelivery = true) (s : Store) (fresh : Fresh) :
    (s.perform fresh call).2 =
      { s with
        messages := (s.perform fresh call).2.messages
        tickets := (s.perform fresh call).2.tickets } := by
  rcases delivery_cases h s fresh with same | ⟨_, _, -, -, becomes⟩ | ⟨_, _, _, -, -, -, -, becomes⟩
  · rw [same]
  · rw [becomes, published]
  · rw [becomes]

/-! What each call writes to. -/

/-- The parts of a store to which calls write. -/
inductive Scope where
  /-- The catalog with its processes and instances: whatever a startup may put in. -/
  | registry
  | runtimes
  | instances
  | deliveries
  | snapshots
  /-- The logs, with the statuses that records set. -/
  | journal
  | nothing

/-- The earlier store with this part of the later one. -/
def Scope.graft (s t : Store) : Scope → Store
  | registry => { t with
      messages := s.messages, tickets := s.tickets, snapshots := s.snapshots, logs := s.logs }
  | runtimes => { s with runtimes := t.runtimes }
  | instances => { s with
      publisherInstances := t.publisherInstances
      subscriberInstances := t.subscriberInstances
      jobInstances := t.jobInstances }
  | deliveries => { s with messages := t.messages, tickets := t.tickets }
  | snapshots => { s with snapshots := t.snapshots }
  | journal => { s with
      runtimes := t.runtimes
      publisherInstances := t.publisherInstances
      subscriberInstances := t.subscriberInstances
      jobInstances := t.jobInstances
      logs := t.logs }
  | nothing => s

/-- The later store differs from the earlier one in this part only. -/
def Scope.Confines (scope : Scope) (s t : Store) : Prop := t = scope.graft s t

theorem Scope.Confines.of_frame {scope : Scope} {s t u : Store} (frame : t = u)
    (within : scope.Confines s u) : scope.Confines s t := by
  subst frame
  exact within

theorem Scope.registrar : WritesLead registry.Confines registrar where
  refl _ := rfl
  trans {s t u} h k := by
    have twice : registry.graft t u = registry.graft (registry.graft s t) u :=
      congrArg (registry.graft · u) h
    exact k.trans twice
  host host := .always fun s => .of_frame (registerHost_frame s host) rfl
  hostRuntime runtime := .always fun s => .of_frame (startHostRuntime_frame s runtime) rfl
  scenario scenario := .always fun s => .of_frame (registerScenario_frame s scenario) rfl
  messageType spec := .always fun s => .of_frame (registerMessageType_frame s spec) rfl
  messageTypeByName _ := .always fun _ => rfl
  publisher row := .always fun s => .of_frame (putPublisher_frame s row) rfl
  subscriber row := .always fun s => .of_frame (putSubscriber_frame s row) rfl
  job row := .always fun s => .of_frame (putJob_frame s row) rfl
  start record := .always fun s => .of_frame (startInstance_frame s record) rfl

def Call.scope : Call → Scope
  | .startUp .. | .registerHost .. | .startHostRuntime .. | .registerScenario ..
  | .registerMessageType .. | .registerPublisher .. | .registerSubscriber .. | .registerJob .. =>
    .registry
  | .endHostRuntime .. => .runtimes
  | .startInstance .. | .touchInstance .. => .instances
  | .publish .. | .tryClaim .. | .commit .. | .heartbeat .. => .deliveries
  | .saveSnapshot .. | .transferSnapshot .. | .deleteSnapshot .. => .snapshots
  | .appendLog .. => .journal
  | _ => .nothing

/-- A call writes to its own part of the store and leaves the rest alone. -/
theorem perform_confined (s : Store) (fresh : Fresh) (call : Call) :
    call.scope.Confines s (s.perform fresh call).2 := by
  cases call with
  | startUp | registerHost | startHostRuntime | registerScenario | registerMessageType
  | registerPublisher | registerSubscriber | registerJob =>
    exact registration_leads Scope.registrar rfl s fresh
  | publish | tryClaim | commit | heartbeat => exact delivery_frame rfl s fresh
  | endHostRuntime runtime now => exact endHostRuntime_frame s runtime now
  | startInstance record => exact startInstance_frame s record
  | touchInstance ref now => exact touchInstance_frame s ref now
  | saveSnapshot owner identifier data now => exact saveSnapshot_frame s owner identifier data now
  | transferSnapshot owner identifier now => exact transferSnapshot_frame s owner identifier now
  | appendLog record => exact appendLog_frame s record
  | _ => rfl

structure SameDeliveries (s t : Store) : Prop where
  messages : t.messages = s.messages
  tickets : t.tickets = s.tickets

theorem SameDeliveries.of_frame {s t u : Store} (frame : t = u) (messages : u.messages = s.messages)
    (tickets : u.tickets = s.tickets) : SameDeliveries s t := by
  subst frame
  exact ⟨messages, tickets⟩

theorem perform_sameDeliveries {call : Call} (h : call.isDelivery = false) (s : Store)
    (fresh : Fresh) : SameDeliveries s (s.perform fresh call).2 := by
  have confined := perform_confined s fresh call
  cases call with
  | publish | tryClaim | commit | heartbeat => cases h
  | _ => exact .of_frame confined rfl rfl

/-- Only a publication stores a message, a new one. -/
theorem messages_after (s : Store) (fresh : Fresh) (call : Call) :
    (s.perform fresh call).2.messages = s.messages ∨
    ∃ message targets, call = .publish message targets ∧ s.Publishable message targets ∧
      (s.perform fresh call).2.messages = s.messages.insert message.id message := by
  cases delivery : call.isDelivery with
  | false => exact .inl (perform_sameDeliveries delivery s fresh).messages
  | true =>
    rcases delivery_cases delivery s fresh with
      same | ⟨message, targets, is, publishable, becomes⟩ | ⟨_, _, _, -, -, -, -, becomes⟩
    · exact .inl (congrArg messages same)
    · exact .inr ⟨message, targets, is, publishable, congrArg messages becomes⟩
    · refine .inl ?_
      rw [becomes]

end MessageBus.Store
