import MessageBus.Proofs.Catalog
import MessageBus.Proofs.Performance
import MessageBus.Proofs.Retries

/-! Every claim is answered. A poll that has claimed a ticket asks for at most fourteen things more,
whatever it is answered, and ends with the ticket processed: between the claim and the end it makes
one commit. The exits by an error are closed because every message is of a type that stays
registered, and because every result leads along an edge. -/
namespace MessageBus

/-! Every message is of a registered type. -/

namespace Store

def Typed (s : Store) : Prop :=
  ∀ id message, s.messages.get? id = some message →
    ∃ row, s.messageTypes.get? message.messageType = some row

theorem Typed.after {s : Store} (h : Typed s) (step : Step) : Typed (s.after step) := by
  intro id message stored
  refine KeepsTypes.after s step _ ?_
  rw [Store.after] at stored
  rcases messages_after s step.fresh step.call with same | ⟨published, _, -, publishable, becomes⟩
  · rw [same] at stored
    exact h id message stored
  · rw [becomes, Table.get?_insert] at stored
    split at stored
    · cases stored
      exact publishable.messageType
    · exact h id message stored

theorem typed_run (steps : List Step) : Typed (run .empty steps) :=
  run_keeps (fun _ step h => h.after step) (fun _ _ stored => by cases stored) steps

theorem hasType_run {s : Store} {id : MessageTypeId}
    (there : ∃ row, s.messageTypes.get? id = some row) (steps : List Step) :
    ∃ row, (s.run steps).messageTypes.get? id = some row :=
  run_keeps (P := fun s => ∃ row, s.messageTypes.get? id = some row)
    (fun s step there => KeepsTypes.after s step id there) there steps

end Store

def Store.Call.isClaim : Store.Call → Bool
  | .tryClaim .. => true
  | _ => false

def Request.isClaim {η : Type} : Request η → Bool
  | .store call | .attempt call => call.isClaim
  | _ => false

theorem Request.isDelivery_of_isClaim {η : Type} (request : Request η)
    (h : request.isClaim = true) : request.isDelivery = true := by
  cases request with
  | store call | attempt call =>
    cases call with
    | tryClaim => rfl
    | _ => cases h
  | _ => cases h

namespace Worker
open Store Routine
variable {η : Type} (w : Worker η)

/-! The parts of a poll around its claim and around its commit. -/

/-- Up to the claim, with the time of the poll. -/
def selecting : StoreRoutine η (Instant × Option Ticket) := do
  let now ← ExceptT.lift (ask .now)
  unlessCancelled (Routine.attempt (.touchInstance w.consumer.ref now))
  let candidate? ← unlessCancelled <| ExceptT.mk <|
    if w.policy.fifo then
      ask (.attempt
        (.findNextFifo w.consumer.queue w.config.eligible w.policy.processingTimeout now))
    else
      ask (.attempt
        (.findNextNonFifo w.consumer.queue w.config.eligible w.policy.processingTimeout now))
  return (now, candidate?)

/-- What follows the claim. -/
def answering : ClaimOutcome → StoreRoutine η PollOutcome
  | .claimed d => w.process d >>= finishing
  | .empty => finishing .empty
  | .lost ticket => finishing (.lost ticket)

def claiming : Instant × Option Ticket → StoreRoutine η PollOutcome
  | (_, none) => finishing .empty
  | (now, some candidate) => do
    w.answering (← Routine.attempt
      (.tryClaim candidate w.consumer w.policy.processingTimeout now))

/-- From the claim to the result, with the time of the result and that of the commit. -/
def preparing (d : Delivery) : StoreRoutine η (HandlerResult × Instant × Instant) := do
  let (pulse, result) ← w.handling d
  ExceptT.lift (ask (.stopPulse pulse))
  let made ← ExceptT.lift (ask .now)
  let now ← ExceptT.lift (ask .now)
  return (result, made, now)

def committing (d : Delivery) (result : HandlerResult) (made now : Instant) :
    StoreRoutine η PollOutcome := do
  let update := w.update d.ticket result made
  let committed ← Routine.call (.commit w.consumer d.ticket.id d.ticket.token update now)
  w.reporting d result update.state committed

theorem unlessCancelled_bind {α β : Type} (body : StoreRoutine η α) (f : α → StoreRoutine η β) :
    unlessCancelled body >>= f = unlessCancelled (body >>= f) := by
  unfold unlessCancelled
  rw [bind_assoc]
  refine bind_congr fun cancelled => ?_
  cases cancelled with
  | true => rfl
  | false => rfl

theorem runOnce_eq_selecting : w.runOnce = w.selecting >>= w.claiming := by
  rw [runOnce_eq]
  simp only [seeking, selecting, bind_assoc, pure_bind, unlessCancelled_bind]
  refine bind_congr fun now => congrArg unlessCancelled (bind_congr fun _ =>
    congrArg unlessCancelled ?_)
  unfold claimNext
  split
  all_goals
    rw [bind_assoc]
    refine bind_congr fun candidate? => ?_
    cases candidate? with
    | none => rfl
    | some candidate =>
      refine bind_congr fun claim => ?_
      cases claim <;> rfl

theorem answering_claimed (d : Delivery) : w.answering (.claimed d) =
    w.preparing d >>= fun (result, made, now) => w.committing d result made now >>= finishing := by
  change w.process d >>= finishing = _
  rw [process_eq]
  simp only [preparing, concluding, committing, bind_assoc, pure_bind]

/-! What they ask for. -/

theorem avoids_selecting {kind : Request η → Bool} (timed : kind .now = false)
    (polls : kind .isCancelled = false)
    (touches : ∀ ref now, kind (.attempt (.touchInstance ref now)) = false)
    (fifo : ∀ queue eligible timeout now,
      kind (.attempt (.findNextFifo queue eligible timeout now)) = false)
    (other : ∀ queue eligible timeout now,
      kind (.attempt (.findNextNonFifo queue eligible timeout now)) = false) :
    Avoids kind w.selecting.run := by
  refine .bind (.lift (.ask timed)) fun now => ?_
  refine .bind (avoids_unlessCancelled polls (.ask (touches _ now))) fun _ => ?_
  exact .bind (avoids_unlessCancelled polls (avoids_selection (fifo _ _ _ now) (other _ _ _ now)))
    fun found => trivial

theorem selecting_avoids_booking : Avoids Request.isBooking w.selecting.run :=
  w.avoids_selecting rfl rfl (fun _ _ => rfl) (fun _ _ _ _ => rfl) fun _ _ _ _ => rfl

theorem selecting_avoids : Avoids Request.isDelivery w.selecting.run :=
  w.selecting_avoids_booking.mono Request.isBooking_of_isDelivery

theorem preparing_avoids_booking (d : Delivery) : Avoids Request.isBooking (w.preparing d).run :=
  .bind (w.handling_avoids_booking d) fun _ => .bind (.lift (.ask rfl)) fun _ =>
    .bind (.lift (.ask rfl)) fun _ => .bind (.lift (.ask rfl)) fun _ => trivial

theorem preparing_avoids (d : Delivery) : Avoids Request.isDelivery (w.preparing d).run :=
  (w.preparing_avoids_booking d).mono Request.isBooking_of_isDelivery

/-- A poll makes no second claim. -/
theorem answering_avoids (claim : ClaimOutcome) :
    Avoids Request.isClaim (w.answering claim).run := by
  have finishing (outcome : PollOutcome) :
      Avoids Request.isClaim (finishing outcome : StoreRoutine η PollOutcome).run :=
    (finishing_avoids outcome).mono Request.isDelivery_of_isClaim
  cases claim with
  | claimed d =>
    rw [answering_claimed]
    refine .bind ((w.preparing_avoids d).mono Request.isDelivery_of_isClaim) ?_
    rintro ⟨result, made, now⟩
    refine .bind (.bind (.ask rfl) fun committed => ?_) finishing
    exact (w.reporting_avoids d result _ committed).mono Request.isDelivery_of_isClaim
  | empty => exact finishing _
  | lost ticket => exact finishing _

theorem messageTypeById_asks (id : MessageTypeId) :
    AsksAtMost 3 (messageTypeById id : StoreRoutine η MessageType).run := by
  refine AsksAtMost.bind (m := 1) (n := 2) (.lift (.ask _)) fun cached => ?_
  cases cached with
  | some row => exact .done _
  | none =>
    refine AsksAtMost.bind (m := 1) (n := 1) (.ask _) fun found => ?_
    cases found with
    | none => exact .done _
    | some row => exact .bind (n := 0) (.lift (.ask _)) fun _ => .done _

theorem dispatch_asks (raw : RawDelivery) : AsksAtMost 1 (w.dispatch raw) := by
  unfold dispatch
  split
  · exact .done _
  · refine AsksAtMost.andThen (m := 1) (n := 0) (.ask _) fun answer => ?_
    cases answer with
    | ok result => exact .done _
    | error panic => exact .done _

theorem reporting_asks (d : Delivery) (result : HandlerResult) (state : TicketState)
    (committed : CommitOutcome) : AsksAtMost 4 (w.reporting d result state committed).run := by
  unfold reporting
  split
  · refine AsksAtMost.bind (m := 4) (n := 0) (.lift ?_) fun _ => .done _
    refine AsksAtMost.andThen (m := 2) (n := 2) ?_ fun record => ?_
    · exact .andThen (m := 1) (n := 1) (.ask _) fun _ =>
        .andThen (m := 1) (n := 0) (.ask _) fun _ => .done _
    · refine .andThen (m := 1) (n := 1) (.ask _) fun _ =>
        .andThen (m := 1) (n := 0) (.ask _) fun answer => ?_
      cases answer with
      | ok _ => exact .done _
      | error e => exact .done _
  · exact .done _

theorem preparing_asks (d : Delivery) : AsksAtMost 8 (w.preparing d).run := by
  have handling : AsksAtMost 5 (w.handling d).run :=
    .bind (m := 3) (n := 2) (messageTypeById_asks _) fun _ =>
      .bind (m := 1) (n := 1) (.lift (.ask _)) fun _ =>
        .bind (m := 1) (n := 0) (.lift (w.dispatch_asks _)) fun _ => .done _
  exact .bind (m := 5) (n := 3) handling fun _ =>
    .bind (m := 1) (n := 2) (.lift (.ask _)) fun _ =>
      .bind (m := 1) (n := 1) (.lift (.ask _)) fun _ =>
        .bind (m := 1) (n := 0) (.lift (.ask _)) fun _ => .done _

/-- Once a ticket is claimed a poll is soon over. -/
theorem answering_asks (d : Delivery) : AsksAtMost 14 (w.answering (.claimed d)).run := by
  rw [answering_claimed]
  refine AsksAtMost.bind (m := 8) (n := 6) (w.preparing_asks d) ?_
  rintro ⟨result, made, now⟩
  refine AsksAtMost.bind (m := 5) (n := 1) ?_ fun outcome => ?_
  · exact .bind (m := 1) (n := 4) (.ask _) fun _ => w.reporting_asks _ _ _ _
  · exact .bind (m := 1) (n := 0) (.lift (.ask _)) fun _ => .done _

section
variable {w} {s : Store} {moves : List (Move η)} {d : Delivery}

/-! The claim of a poll. -/

/-- A poll comes to a claim from a selection of its own, and goes on from it with the delivery. -/
theorem reaches_claim {before : List (Move η)} {candidate : Ticket} {consumer : Consumer}
    {timeout : Duration} {now : Instant}
    {next : Except StoreError ClaimOutcome → Routine η (Except StoreError PollOutcome)}
    (h : Reaches w.runOnce.run s before
      (Program.ask (.attempt (.tryClaim candidate consumer timeout now)) next)) :
    consumer = w.consumer ∧ Reaches w.selecting.run s before (.done (.ok (now, some candidate))) ∧
      ∀ d, next (.ok (.claimed d)) = (w.answering (.claimed d)).run := by
  rw [runOnce_eq_selecting] at h
  -- The claim is none of the requests of the selection, and after a claim there is no other.
  rcases h.split with ⟨request, inner, same, early⟩ | ⟨found, first, rest, rfl, selects, h⟩
  · have quiet := (early.avoids w.selecting_avoids).1.1
    cases same
    cases quiet
  cases found with
  | error e => cases h.of_done.1
  | ok found =>
    obtain ⟨time, candidate?⟩ := found
    cases candidate? with
    | none => cases (h.avoids (finishing_avoids _)).1.1
    | some chosen =>
      rcases h.ask_split with ⟨others, rfl, same⟩ | ⟨others, own, answer, rest, rfl, -, late⟩
      · cases same
        exact ⟨rfl, selects.trans (.others _ _ _), fun d => rfl⟩
      · cases answer with
        | error e => cases late.of_done.1
        | ok claim => cases (late.avoids (w.answering_avoids claim)).1.1

/-- What was selected was stored under its identifier, in the queue of the worker. -/
theorem stored_of_selecting {past during : List Step} {now : Instant} {candidate : Ticket}
    (h : Runs w.selecting.run (run .empty past) during (.ok (now, some candidate))) :
    ∃ first rest, during = first ++ rest ∧
      (run .empty (past ++ first)).tickets.get? candidate.id = some candidate ∧
      candidate.queue = w.consumer.queue := by
  obtain ⟨time, first, _, rfl, -, h⟩ := h.split
  cases time with
  | error e => cases h.done_eq
  | ok time =>
    obtain ⟨touched, second, _, rfl, -, h⟩ := h.split
    cases touched with
    | error e => cases h.done_eq
    | ok _ =>
      obtain ⟨found, third, rest, rfl, selects, h⟩ := h.split
      cases found with
      | error e => cases h.done_eq
      | ok candidate? =>
        cases h.done_eq
        obtain ⟨polled, asked, rfl, finds⟩ := runs_unlessCancelled selects
        rcases selection_split finds with cancelled | ⟨before, fresh, later, rfl, found⟩
        · cases cancelled
        · have found := (Except.ok.inj found).symm
          simp only [← run_append] at found
          obtain ⟨message, selectable⟩ := selectable_of_findNext
            (fun id row stored => (givenOut_run _ id row stored).1) found
          exact ⟨first ++ (second ++ (polled ++ before)),
            ⟨fresh, selection w.consumer w.policy w.config.eligible now⟩ :: (later ++ rest),
            by simp, by simpa using selectable.stored, selectable.queue⟩

/-- The store after a claim has the ticket as it was handed out, and the type of its message. -/
structure Claimed (w : Worker η) (s : Store) (d : Delivery) : Prop where
  stored : s.tickets.get? d.ticket.id = some d.ticket
  owner : d.ticket.owner = some w.consumer.instanceUuid
  messageType : ∃ row, s.messageTypes.get? d.message.messageType = some row

theorem claimed_of_answered {steps own : List Step} {candidate : Ticket} {timeout : Duration}
    {now : Instant}
    (h : Answered (.attempt (.tryClaim candidate w.consumer timeout now) : Request η)
      (run .empty steps) own (.ok (.claimed d))) :
    w.Claimed (run .empty (steps ++ own)) d := by
  rcases h.of_attempt with ⟨-, cancelled⟩ | ⟨fresh, rfl, answered⟩
  · cases cancelled
  · obtain ⟨row, -, stored, -, message, taken, -, becomes⟩ := claimed_step answered.symm
    have same : d.ticket.id = candidate.id := by
      rw [taken]
      exact (givenOut_run steps _ row stored).1
    rw [run_append]
    refine ⟨?_, ?_, ?_⟩
    · rw [same]
      exact becomes
    · rw [taken]
      rfl
    · exact KeepsTypes.after _ _ _ (typed_run steps _ _ message)

/-- Where no identifier was given out twice, the ticket is of the queue of the worker. -/
theorem queue_of_answered {past during own : List Step} {candidate : Ticket} {timeout : Duration}
    {now : Instant} (ids : (issuedTickets .empty (past ++ during)).Nodup)
    (selects : Runs w.selecting.run (run .empty past) during (.ok (now, some candidate)))
    (h : Answered (.attempt (.tryClaim candidate w.consumer timeout now) : Request η)
      (run .empty (past ++ during)) own (.ok (.claimed d))) :
    d.ticket.queue = w.consumer.queue := by
  rcases h.of_attempt with ⟨-, cancelled⟩ | ⟨fresh, rfl, answered⟩
  · cases cancelled
  · obtain ⟨row, -, stored, -, -, taken, -⟩ := claimed_step answered.symm
    obtain ⟨first, rest, rfl, there, queue⟩ := stored_of_selecting selects
    rw [← List.append_assoc] at ids stored
    obtain ⟨later, found, follows⟩ := follows_run there (not_mem_issuedTickets ids there)
    rw [← run_append] at found
    cases stored.symm.trans found
    rw [taken]
    exact follows.queue.trans queue

/-! What a poll makes of a delivery. -/

/-- The name of a message type as a routine finds it: in the cache, or else in the store. -/
inductive FindsName (id : MessageTypeId) (moves : List (Move η)) : String → Prop
  | cached {row} (hit : .own (.cachedById id) [] (some row) ∈ moves) :
      FindsName id moves row.name
  | loaded {row steps} (missed : .own (.cachedById id) [] none ∈ moves)
      (found : .own (.store (.messageTypeById id)) steps (.ok (some row)) ∈ moves) :
      FindsName id moves row.name

/-- What becomes of a delivery: no handler takes it, or a handler does, and returns or breaks off. -/
inductive Handles (w : Worker η) (raw : RawDelivery) (moves : List (Move η)) : HandlerResult → Prop
  | unrouted {e} (refused : w.registry.route raw = .error e) : Handles w raw moves (.failed e.message)
  | returned {handler envelope result} (routed : w.registry.route raw = .ok (handler, envelope))
      (ends : .own (.handle handler envelope) [] (.ok result) ∈ moves) : Handles w raw moves result
  | panicked {handler envelope panic} (routed : w.registry.route raw = .ok (handler, envelope))
      (ends : .own (.handle handler envelope) [] (.error panic) ∈ moves) :
      Handles w raw moves (.failed s!"handler panicked: {panic.message}")

theorem FindsName.mono {id : MessageTypeId} {more : List (Move η)} {name : String}
    (h : FindsName id moves name) (le : moves ⊆ more) : FindsName id more name := by
  cases h with
  | cached hit => exact .cached (le hit)
  | loaded missed found => exact .loaded (le missed) (le found)

theorem Handles.mono {raw : RawDelivery} {more : List (Move η)} {result : HandlerResult}
    (h : w.Handles raw moves result) (le : moves ⊆ more) : w.Handles raw more result := by
  cases h with
  | unrouted refused => exact .unrouted refused
  | returned routed ends => exact .returned routed (le ends)
  | panicked routed ends => exact .panicked routed (le ends)

/-- The message type of a stored message is always found. -/
theorem finds_messageType {id : MessageTypeId} {result : Except StoreError MessageType}
    (there : ∃ row, s.messageTypes.get? id = some row)
    (h : Reaches (messageTypeById id : StoreRoutine η MessageType).run s moves (.done result)) :
    ∃ row, result = .ok row ∧ FindsName id moves row.name := by
  obtain ⟨others, own, cached, rest, rfl, answered, h⟩ := h.ask_done
  cases answered.of_elsewhere fun _ => ⟨nofun, nofun⟩
  cases cached with
  | some row =>
    cases h.of_done.1
    exact ⟨row, rfl, .cached (by simp)⟩
  | none =>
    obtain ⟨_, _, found, _, rfl, answered, h⟩ := h.ask_done
    obtain ⟨_, rfl, is⟩ := answered.of_store
    rw [← run_append] at is
    obtain ⟨row, stored⟩ := hasType_run there _
    cases is.trans (congrArg Except.ok stored)
    obtain ⟨_, _, _, _, rfl, -, h⟩ := h.ask_done
    cases h.of_done.1
    exact ⟨row, rfl, .loaded (List.mem_append_right _ (.head _))
      (List.mem_append_right _ (.tail _ (List.mem_append_right _ (.head _))))⟩

theorem handles_of_dispatch {raw : RawDelivery} {result : HandlerResult}
    (h : Reaches (w.dispatch raw) s moves (.done result)) : w.Handles raw moves result := by
  unfold dispatch at h
  split at h
  · next e refused =>
    cases h.of_done.1
    exact .unrouted refused
  · next handler envelope routed =>
    obtain ⟨others, own, answer, rest, rfl, answered, h⟩ := h.ask_done
    cases answered.of_elsewhere fun _ => ⟨nofun, nofun⟩
    cases answer with
    | ok result =>
      cases h.of_done.1
      exact .returned routed (by simp)
    | error panic =>
      cases h.of_done.1
      exact .panicked routed (by simp)

theorem prepared_of_reaches {result : Except StoreError (HandlerResult × Instant × Instant)}
    (there : ∃ row, s.messageTypes.get? d.message.messageType = some row)
    (h : Reaches (w.preparing d).run s moves (.done result)) :
    ∃ handled made now name, result = .ok (handled, made, now) ∧
      FindsName d.message.messageType moves name ∧ w.Handles (.ofClaim d name) moves handled := by
  -- Only the look-up of the type could end it by an error, and the type is there.
  obtain ⟨pulsed, handling, _, rfl, handles, h⟩ := h.split_done
  obtain ⟨found, loading, _, rfl, loads, handles⟩ := handles.split_done
  obtain ⟨row, rfl, names⟩ := finds_messageType there loads
  obtain ⟨_, _, pulse, _, rfl, -, handles⟩ := handles.ask_done
  have handles : Reaches (ExceptT.lift (w.dispatch (.ofClaim d row.name)) >>= fun handled =>
      (pure (pulse, handled) : StoreRoutine η _)).run _ _ _ := handles
  obtain ⟨handled, dispatching, _, rfl, dispatches, handles⟩ := handles.split_lift
  have became := handles_of_dispatch dispatches
  cases handles.of_done.1
  obtain ⟨_, _, _, _, rfl, -, h⟩ := h.ask_done
  obtain ⟨_, _, made, _, rfl, -, h⟩ := h.ask_done
  obtain ⟨_, _, now, _, rfl, -, h⟩ := h.ask_done
  cases h.of_done.1
  refine ⟨handled, made, now, row.name, rfl, names.mono ?_, became.mono ?_⟩
  · intro move mem
    simp [mem]
  · intro move mem
    simp [mem]

theorem reported_of_reaches {result : HandlerResult} {state : TicketState}
    {committed : CommitOutcome} {ended : Except StoreError PollOutcome}
    (h : Reaches (w.reporting d result state committed).run s moves (.done ended)) :
    ended = .ok (.processed d.ticket.id state committed.isCommitted) := by
  unfold reporting at h
  split at h
  · obtain ⟨_, _, _, -, -, h⟩ := h.split_lift
    cases h.of_done.1
    rfl
  · cases h.of_done.1
    rfl

/-! The commit. -/

/-- How a poll closes a claim: what happens up to the commit, the result and what is committed of it,
and what happens afterwards. -/
structure Closing (η : Type) where
  before : List (Move η)
  result : HandlerResult
  /-- When the result was there. -/
  made : Instant
  now : Instant
  steps : List Step
  committed : CommitOutcome
  later : List (Move η)

def Closing.update (w : Worker η) (d : Delivery) (c : Closing η) : TicketUpdate :=
  w.update d.ticket c.result c.made

/-- The moves after a claim, to the end of the poll. -/
structure Closes (w : Worker η) (d : Delivery) (moves : List (Move η))
    (outcome : Except StoreError PollOutcome) (c : Closing η) : Prop where
  split : moves = c.before ++ .own
    (.store (.commit w.consumer d.ticket.id d.ticket.token (c.update w d) c.now)) c.steps
      (.ok c.committed) :: c.later
  /-- The result is what became of the delivery. -/
  result : ∃ name, FindsName d.message.messageType c.before name ∧
    w.Handles (.ofClaim d name) c.before c.result
  /-- Nothing else is written to messages and tickets. -/
  once : (requestsOf moves).filter Request.isDelivery =
    [.store (.commit w.consumer d.ticket.id d.ticket.token (c.update w d) c.now)]
  edge : TicketState.inProgress.canMoveTo (c.update w d).state = true
  outcome : outcome = .ok (.processed d.ticket.id (c.update w d).state c.committed.isCommitted)

/-- A result leads along an edge, so that its commit is never refused by an error. -/
theorem commit_eq_ok {result : HandlerResult} {made now : Instant} {fresh : Fresh} :
    ∃ committed, Step.answer ⟨fresh, .commit w.consumer d.ticket.id d.ticket.token
      (w.update d.ticket result made) now⟩ s = .ok committed := by
  have valid : TicketState.inProgress.canMoveTo (w.update d.ticket result made).state = true :=
    TicketUpdate.canMoveTo_ofOutcome _ _ _ _ _
  cases held : s.heldTicket? w.consumer d.ticket.id d.ticket.token with
  | none => exact ⟨_, congrArg Prod.fst (commit_of_lost valid held fresh)⟩
  | some row =>
    obtain ⟨stored, held⟩ := heldTicket?_eq_some_iff.1 held
    exact ⟨_, congrArg Prod.fst (commit_of_held valid stored held fresh)⟩

theorem committed_of_reaches {result : HandlerResult} {made now : Instant}
    {ended : Except StoreError PollOutcome}
    (h : Reaches (w.committing d result made now).run s moves (.done ended)) :
    ∃ (others steps : List Step) (committed : CommitOutcome) (later : List (Move η)),
      let commit := Call.commit w.consumer d.ticket.id d.ticket.token
        (w.update d.ticket result made) now
      moves = others.map .other ++ .own (.store commit) steps (.ok committed) :: later ∧
      Answered (.store commit : Request η) (s.run others) steps (.ok committed) ∧
      (requestsOf later).filter Request.isDelivery = [] ∧
      ended = .ok (.processed d.ticket.id (w.update d.ticket result made).state
        committed.isCommitted) := by
  obtain ⟨others, own, answer, later, rfl, answered, reports⟩ := h.ask_done
  obtain ⟨fresh, rfl, is⟩ := answered.of_store
  obtain ⟨committed, going⟩ := commit_eq_ok
  cases is.trans going
  exact ⟨others, _, committed, later, rfl, answered,
    (reports.avoids (w.reporting_avoids d result _ committed)).2, reported_of_reaches reports⟩

theorem finished_of_reaches {outcome : PollOutcome} {ended : Except StoreError PollOutcome}
    (h : Reaches (finishing outcome : StoreRoutine η PollOutcome).run s moves (.done ended)) :
    ended = .ok outcome := by
  obtain ⟨_, _, _, _, -, -, h⟩ := h.ask_done
  cases h.of_done.1
  rfl

theorem closes_of_reaches {outcome : Except StoreError PollOutcome}
    (there : ∃ row, s.messageTypes.get? d.message.messageType = some row)
    (h : Reaches (w.answering (.claimed d)).run s moves (.done outcome)) :
    ∃ c, w.Closes d moves outcome c ∧
      Reaches (w.preparing d).run s c.before (.done (.ok (c.result, c.made, c.now))) ∧
      Answered (.store (.commit w.consumer d.ticket.id d.ticket.token (c.update w d) c.now) :
        Request η) (s.run (stepsOf c.before)) c.steps (.ok c.committed) := by
  rw [answering_claimed] at h
  obtain ⟨ready, before, _, rfl, prepares, ends⟩ := h.split_done
  obtain ⟨result, made, now, name, rfl, names, handles⟩ := prepared_of_reaches there prepares
  obtain ⟨ended, _, last, rfl, commits, finishes⟩ := ends.split_done
  obtain ⟨others, steps, committed, later, rfl, answered, reported, rfl⟩ :=
    committed_of_reaches commits
  have prepared := (prepares.avoids (w.preparing_avoids d)).2
  have finished := (finishes.avoids (finishing_avoids _)).2
  refine ⟨⟨before ++ others.map .other, result, made, now, steps, committed, later ++ last⟩,
    ?_, prepares.trans (.others _ _ _), ?_⟩
  · exact {
      split := by simp [Closing.update]
      result := ⟨name, names.mono (List.subset_append_left _ _),
        handles.mono (List.subset_append_left _ _)⟩
      once := by
        simp [List.filter_cons, prepared, reported, finished, Closing.update, Request.isDelivery,
          Call.isDelivery]
      edge := TicketUpdate.canMoveTo_ofOutcome _ _ _ _ _
      outcome := finished_of_reaches finishes }
  · simpa [Closing.update] using answered

/-! Nobody else at the ticket. -/

/-- Each call of others leaves the row of the ticket as it is, but for the signs of life of the
worker. -/
def Untouched (w : Worker η) (ticket : Ticket) (s : Store) (moves : List (Move η)) : Prop :=
  ∀ first step rest, moves = first ++ .other step :: rest →
    ((s.run (stepsOf first)).after step).tickets.get? ticket.id =
        (s.run (stepsOf first)).tickets.get? ticket.id ∨
      ∃ now, step.call = .heartbeat w.consumer ticket.id ticket.token now

theorem untouched_of_beats {ticket : Ticket}
    (beats : ∀ step, .other step ∈ moves →
      ∃ now, step.call = .heartbeat w.consumer ticket.id ticket.token now) :
    w.Untouched ticket s moves := by
  rintro first step rest rfl
  exact .inr (beats step (by simp))

theorem Untouched.tail {ticket : Ticket} {move : Move η}
    (h : w.Untouched ticket s (move :: moves)) : w.Untouched ticket (s.run move.steps) moves := by
  rintro first step rest rfl
  have later := h (move :: first) step rest rfl
  rwa [stepsOf_cons, run_append] at later

theorem waits_of_heartbeat {step : Step} {ticket row : Ticket} {consumer : Consumer}
    {token : ConcurrencyToken} {now : Instant}
    (alive : step.call = .heartbeat consumer ticket.id token now)
    (stored : s.tickets.get? ticket.id = some row) :
    ∃ later, (s.after step).tickets.get? ticket.id = some later ∧ Waits row later := by
  obtain ⟨fresh, call⟩ := step
  cases alive
  cases ticketStep s ticket.id ⟨fresh, .heartbeat consumer ticket.id token now⟩ with
  | kept same => exact ⟨row, same.trans stored, .refl row⟩
  | alive found _ working becomes =>
    cases stored.symm.trans found
    exact ⟨_, becomes, rfl, fun idle => absurd working idle⟩

theorem tickets_of_answered {request : Request η} {steps : List Step} {answer : request.Answer}
    (h : Answered request s steps answer) (quiet : request.isDelivery = false) :
    (s.run steps).tickets = s.tickets := by
  cases h with
  | store fresh => exact (perform_sameDeliveries quiet s fresh).tickets
  | attempt fresh => exact (perform_sameDeliveries quiet s fresh).tickets
  | givenUp => rfl
  | elsewhere => rfl

/-- A ticket that nobody else touches keeps its row, but for signs of life. -/
theorem waits_of_untouched {α : Type} {routine left : Routine η α} {ticket row : Ticket}
    (h : Reaches routine s moves left) (avoids : Avoids Request.isDelivery routine)
    (untouched : w.Untouched ticket s moves) (stored : s.tickets.get? ticket.id = some row) :
    ∃ later, (s.run (stepsOf moves)).tickets.get? ticket.id = some later ∧ Waits row later := by
  induction h generalizing row with
  | here => exact ⟨row, stored, .refl row⟩
  | @other _ _ s _ step _ ih =>
    have next : ∃ later, (s.after step).tickets.get? ticket.id = some later ∧ Waits row later := by
      rcases untouched [] step _ rfl with same | ⟨now, alive⟩
      · exact ⟨row, same.trans stored, .refl row⟩
      · exact waits_of_heartbeat alive stored
    obtain ⟨middle, there, first⟩ := next
    obtain ⟨later, last, rest⟩ := ih avoids untouched.tail there
    exact ⟨later, last, first.trans rest⟩
  | own answered _ ih =>
    rw [stepsOf_cons, run_append]
    refine ih (avoids.2 _) untouched.tail ?_
    rw [tickets_of_answered answered avoids.1]
    exact stored

/-- The commit went through, and the row has taken its update. A result without a snapshot leaves the
one that was there. -/
def Recorded (w : Worker η) (d : Delivery) (c : Closing η) (s : Store) : Prop :=
  ∃ token, c.committed = .committed token ∧
    s.tickets.get? d.ticket.id = some { d.ticket with
      state := (c.update w d).state
      retryCount := (c.update w d).retryCount
      delayedTo := (c.update w d).delayedTo
      snapshot := c.result.snapshot.or d.ticket.snapshot
      lastAccess := some c.now
      token }

theorem recorded_of_untouched {c : Closing η} {outcome : Except StoreError PollOutcome}
    (claimed : w.Claimed s d) (queue : d.ticket.queue = w.consumer.queue)
    (closes : w.Closes d moves outcome c)
    (prepares : Reaches (w.preparing d).run s c.before (.done (.ok (c.result, c.made, c.now))))
    (untouched : w.Untouched d.ticket s c.before)
    (answered : Answered
      (.store (.commit w.consumer d.ticket.id d.ticket.token (c.update w d) c.now) : Request η)
      (s.run (stepsOf c.before)) c.steps (.ok c.committed)) :
    w.Recorded d c ((s.run (stepsOf c.before)).run c.steps) := by
  obtain ⟨row, stored, waits⟩ :=
    waits_of_untouched prepares (w.preparing_avoids d) untouched claimed.stored
  have held : row.isHeldBy w.consumer d.ticket.token = true := by
    rw [waits.alive]
    simp [Ticket.isHeldBy, queue, claimed.owner]
  obtain ⟨fresh, ran, is⟩ := answered.of_store
  have done : (s.run (stepsOf c.before)).commit fresh w.consumer d.ticket.id d.ticket.token
      (c.update w d) c.now = _ := commit_of_held closes.edge stored held fresh
  have committed : Step.answer ⟨fresh, .commit w.consumer d.ticket.id d.ticket.token
      (c.update w d) c.now⟩ (s.run (stepsOf c.before)) = .ok (.committed (fresh.token 0)) :=
    congrArg Prod.fst done
  refine ⟨fresh.token 0, Except.ok.inj (is.trans committed), ?_⟩
  rw [ran]
  refine (congrArg (·.2.tickets.get? d.ticket.id) done).trans ?_
  rw [Table.get?_insert_self, waits.alive]
  rfl

/-- Every claim is answered. Once a poll has claimed a ticket it is over after at most fourteen more
requests, however they are answered, and it ends with the ticket processed: it has made one commit,
with the token of the claim and along an edge. If nobody else has touched the ticket, the commit went
through and is recorded. -/
theorem claim_answered {past steps : List Step} {before after : List (Move η)} {candidate : Ticket}
    {consumer : Consumer} {timeout : Duration} {now : Instant}
    {left : Routine η (Except StoreError PollOutcome)}
    (h : Reaches w.runOnce.run (run .empty past)
      (before ++ .own (.attempt (.tryClaim candidate consumer timeout now)) steps
        (.ok (.claimed d)) :: after) left) :
    (∃ n, AsksAtMost n left ∧ (requestsOf after).length + n ≤ 14) ∧
    ∀ outcome, left = .done outcome → ∃ c, w.Closes d after outcome c ∧
      (requestsOf before).filter Request.isDelivery = [] ∧
      ((issuedTickets .empty (past ++ stepsOf before)).Nodup →
        w.Untouched d.ticket (run .empty (past ++ stepsOf before ++ steps)) c.before →
        w.Recorded d c
          (run .empty (past ++ stepsOf before ++ steps ++ stepsOf c.before ++ c.steps))) := by
  obtain ⟨next, reached, answered, h⟩ := h.cut
  obtain ⟨rfl, selects, goesOn⟩ := reaches_claim reached
  rw [goesOn, ← run_append, ← List.append_assoc] at h
  rw [← run_append] at answered
  refine ⟨(w.answering_asks d).reaches h, ?_⟩
  rintro outcome rfl
  have claimed := claimed_of_answered answered
  obtain ⟨c, closes, prepares, commits⟩ := closes_of_reaches claimed.messageType h
  refine ⟨c, closes, (selects.avoids w.selecting_avoids).2, fun ids untouched => ?_⟩
  have queue := queue_of_answered ids selects.runs answered
  rw [run_append _ _ c.steps, run_append _ _ (stepsOf c.before)]
  exact recorded_of_untouched claimed queue closes prepares untouched commits

end

/-! The clerk at work: the type of the message is not in the cache, there is no handler for it, and a
sign of life is given meanwhile. -/

def clerkSeeking : List (Move Unit) := [
  .own .now [] default,
  .own .isCancelled [] false,
  .own (.attempt (.touchInstance runner.ref default))
    [⟨freshFrom 0, .touchInstance runner.ref default⟩] (.ok ()),
  .own .isCancelled [] false,
  .own (.attempt (.findNextNonFifo runner.queue clerk.config.eligible
      clerk.policy.processingTimeout default))
    [⟨freshFrom 1200, .findNextNonFifo runner.queue clerk.config.eligible
      clerk.policy.processingTimeout default⟩] (.ok (some ticketAtFirst))]

def clerkClaims : Step :=
  ⟨freshFrom 2000, .tryClaim ticketAtFirst runner clerk.policy.processingTimeout default⟩

def clerkType : MessageType := ⟨⟨1⟩, "type", "Type"⟩

def clerkPulse : Pulse :=
  ⟨runner, clerkDelivery.ticket.id, clerkDelivery.ticket.token, clerk.config.heartbeatInterval⟩

def clerkBeats : Step :=
  ⟨freshFrom 0, .heartbeat runner clerkDelivery.ticket.id clerkDelivery.ticket.token default⟩

def clerkRecord : LogRecord :=
  ⟨⟨.ofNat 20⟩, .component runner.ref, .error, (DispatchError.unknownType "type").message,
    some oneMessage.id, none, none, default⟩

def clerkAnswers : List (Move Unit) := [
  .own (.cachedById ⟨1⟩) [] none,
  .own (.store (.messageTypeById ⟨1⟩)) [⟨freshFrom 0, .messageTypeById ⟨1⟩⟩] (.ok (some clerkType)),
  .own (.remember clerkType) [] (),
  .own (.startPulse clerkPulse) [] 0,
  .other clerkBeats,
  .own (.stopPulse 0) [] (),
  .own .now [] default,
  .own .now [] default,
  .own (.store clerkCommits.call) [clerkCommits] (.ok (.committed ⟨.ofNat 3000⟩)),
  .own .freshLog [] ⟨.ofNat 20⟩,
  .own .now [] default,
  .own .correlationScopes [] [],
  .own (.store (.appendLog clerkRecord)) [⟨freshFrom 0, .appendLog clerkRecord⟩] (.ok ()),
  .own (.tally (.processed ticketAtFirst.id .suspended true)) [] ()]

theorem reaches_clerk : Reaches clerk.runOnce.run (run .empty clerkAtWork)
    (clerkSeeking ++ .own (.attempt clerkClaims.call) [clerkClaims]
      (.ok (.claimed clerkDelivery)) :: clerkAnswers)
    (.done (.ok (.processed ticketAtFirst.id .suspended true))) := by
  -- The claim.
  refine .elsewhere (fun _ => ⟨nofun, nofun⟩) ?_
  refine .elsewhere (fun _ => ⟨nofun, nofun⟩) ?_
  refine .own (.attempt_of (freshFrom 0) rfl) ?_
  refine .elsewhere (fun _ => ⟨nofun, nofun⟩) ?_
  refine .own (.attempt_of (freshFrom 1200) (congrArg Except.ok findNext_clerk)) ?_
  refine .own (.attempt_of (freshFrom 2000) rfl) ?_
  -- The result.
  refine .elsewhere (fun _ => ⟨nofun, nofun⟩) ?_
  refine .own (.store_of (freshFrom 0) rfl) ?_
  refine .elsewhere (fun _ => ⟨nofun, nofun⟩) ?_
  refine .elsewhere (fun _ => ⟨nofun, nofun⟩) ?_
  refine .other clerkBeats ?_
  refine .elsewhere (fun _ => ⟨nofun, nofun⟩) ?_
  -- The commit and the record.
  refine .elsewhere (fun _ => ⟨nofun, nofun⟩) ?_
  refine .elsewhere (fun _ => ⟨nofun, nofun⟩) ?_
  refine .own (.store_of (freshFrom 3000) rfl) ?_
  refine .elsewhere (fun _ => ⟨nofun, nofun⟩) ?_
  refine .elsewhere (fun _ => ⟨nofun, nofun⟩) ?_
  refine .elsewhere (fun _ => ⟨nofun, nofun⟩) ?_
  refine .own (.store_of (freshFrom 0) rfl) ?_
  refine .elsewhere (fun _ => ⟨nofun, nofun⟩) ?_
  exact .here

theorem claim_answered_clerk :
    Reaches clerk.runOnce.run (run .empty clerkAtWork)
      (clerkSeeking ++ .own (.attempt clerkClaims.call) [clerkClaims]
        (.ok (.claimed clerkDelivery)) :: clerkAnswers)
      (.done (.ok (.processed ticketAtFirst.id .suspended true))) ∧
    (issuedTickets .empty (clerkAtWork ++ stepsOf clerkSeeking)).Nodup ∧
    ∃ c s, clerk.Closes clerkDelivery clerkAnswers
        (.ok (.processed ticketAtFirst.id .suspended true)) c ∧
      clerk.Untouched clerkDelivery.ticket
        (run .empty (clerkAtWork ++ stepsOf clerkSeeking ++ [clerkClaims])) c.before ∧
      clerk.Recorded clerkDelivery c s := by
  obtain ⟨-, ends⟩ := claim_answered reaches_clerk
  obtain ⟨c, closes, -, recorded⟩ := ends _ rfl
  have ids : (issuedTickets .empty (clerkAtWork ++ stepsOf clerkSeeking)).Nodup := by
    decide +kernel
  have untouched : clerk.Untouched clerkDelivery.ticket
      (run .empty (clerkAtWork ++ stepsOf clerkSeeking ++ [clerkClaims])) c.before := by
    refine untouched_of_beats fun step mem => ?_
    have mem : .other step ∈ clerkAnswers := by
      rw [closes.split]
      exact List.mem_append_left _ mem
    have is : step = clerkBeats := by simpa [clerkAnswers] using mem
    exact ⟨default, congrArg Step.call is⟩
  exact ⟨reaches_clerk, ids, c, _, closes, untouched, recorded ids untouched⟩

end Worker
end MessageBus
