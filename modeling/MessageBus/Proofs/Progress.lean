import MessageBus.Proofs.Handling

/-! What a handler has reached is kept for the next one. The snapshot of a ticket is the last one that
came with a result committed for it; whatever comes without a snapshot, or too late, leaves it. -/
namespace MessageBus.Store
open Routine

/-- The snapshot of the latest result that has one. -/
def lastSnapshot (results : List HandlerResult) : Option Bytes :=
  (results.filterMap HandlerResult.snapshot).getLast?

/-- How far the handlers of a ticket have come in a history. -/
def progress (id : TicketId) (events : List Event) : Option Bytes :=
  lastSnapshot (committedResults id .empty events)

theorem lastSnapshot_append (earlier later : List HandlerResult) :
    lastSnapshot (earlier ++ later) = (lastSnapshot later).or (lastSnapshot earlier) := by
  rw [lastSnapshot, List.filterMap_append, List.getLast?_append]
  rfl

theorem lastSnapshot_singleton (result : HandlerResult) :
    lastSnapshot [result] = result.snapshot := by
  cases same : result.snapshot with
  | none => rw [lastSnapshot, List.filterMap_cons_none same]; rfl
  | some snapshot => rw [lastSnapshot, List.filterMap_cons_some same]; rfl

theorem progress_concat (id : TicketId) (events : List Event) (event : Event) :
    progress id (events ++ [event]) =
      (lastSnapshot (event.committed id (afterEvents events))).or (progress id events) := by
  have last : (afterEvents events).committedResults id [event] =
      event.committed id (afterEvents events) := List.append_nil _
  rw [progress, committedResults_append, lastSnapshot_append]
  exact congrArg (fun results => (lastSnapshot results).or _) last

section
variable {ι η : Type} {workers : ι → Worker η}

theorem TicketEvent.snapshot {row next : Ticket} {committed : List HandlerResult}
    (h : TicketEvent workers row committed next) :
    next.snapshot = (lastSnapshot committed).or row.snapshot := by
  cases h with
  | kept _ same => exact same
  | @committed i result => rw [lastSnapshot_singleton]; rfl

theorem snapshot_of_new {s : Store} {id : TicketId} {row : Ticket} {step : Step}
    (unknown : s.tickets.get? id = none) (stored : (s.after step).tickets.get? id = some row) :
    row.snapshot = none := by
  obtain ⟨_, _, _, rfl⟩ := eq_fresh_of_unknown unknown stored
  rfl

/-- The snapshot of a ticket is its progress. -/
structure Progressed (events : List Event) (id : TicketId) : Prop where
  unknown : (afterEvents events).tickets.get? id = none → progress id events = none
  stored : ∀ row, (afterEvents events).tickets.get? id = some row →
    row.snapshot = progress id events

theorem PoolRun.progressed {events : List Event} (pool : PoolRun workers events) (id : TicketId) :
    Progressed events id := by
  induction events using concat_induction with
  | new => exact ⟨fun _ => rfl, fun row stored => by cases stored⟩
  | next events event ih =>
    have ih := ih pool.of_append
    have made := progress_concat id events event
    cases known : (afterEvents events).tickets.get? id with
    | none =>
      rw [committed_of_unknown known, ih.unknown known] at made
      refine ⟨fun _ => made, fun row stored => ?_⟩
      rw [afterEvents_concat] at stored
      exact (snapshot_of_new known stored).trans made.symm
    | some row =>
      obtain ⟨next, becomes, change⟩ := ticketEvent pool known
      refine ⟨fun unknown => ?_, fun row' stored => ?_⟩
      · cases unknown.symm.trans becomes
      cases becomes.symm.trans stored
      rw [change.snapshot, ih.stored row known, made]

/-- A claim hands out the progress of its ticket. -/
theorem PoolRun.snapshot_of_claim {events before : List Event} (pool : PoolRun workers events)
    {now : Instant} {d : Delivery}
    (claimed : ClaimedAfter (events.map Event.step) (before.map Event.step) now d)
    (split : before <+: events) : d.ticket.snapshot = progress d.ticket.id before := by
  obtain ⟨later, rfl⟩ := split
  obtain ⟨fresh, candidate, consumer, timeout, _, -, answered⟩ := claimed
  obtain ⟨row, -, stored, -, -, taken, -⟩ := claimed_step answered
  have same : d.ticket.id = candidate.id := by
    rw [taken]
    exact (givenOut_run _ _ row stored).1
  rw [same, taken]
  exact (pool.of_append.progressed candidate.id).stored row stored

/-- A poll in a history has claimed in it whatever it gives to a handler. -/
theorem claimedAfter_of_handle {events : List Event} {w : Worker η} {past later : List Step}
    {moves : List (Move η)} {handler : η} {envelope : Envelope}
    {next : Except HandlerPanic HandlerResult → Routine η (Except StoreError PollOutcome)}
    (during : events.map Event.step = past ++ stepsOf moves ++ later)
    (h : Reaches w.runOnce.run (run .empty past) moves
      (Program.ask (.handle handler envelope) next)) :
    ∃ before now d, before <+: events ∧
      ClaimedAfter (events.map Event.step) (before.map Event.step) now d ∧
      envelope.ticket = d.ticket.id ∧ envelope.snapshot = d.ticket.snapshot := by
  obtain ⟨before, candidate, timeout, now, steps, d, after, name, rfl, -, routed, -⟩ :=
    Worker.handle_of_reaches h
  obtain ⟨_, _, -, -, rfl⟩ := Registry.route_eq_ok_iff.1 routed
  obtain ⟨_, -, answered, -⟩ := h.cut
  rcases answered.of_attempt with ⟨-, cancelled⟩ | ⟨fresh, rfl, answer⟩
  · cases cancelled
  have split : events.map Event.step = (past ++ stepsOf before) ++
      (⟨fresh, .tryClaim candidate w.consumer timeout now⟩ :: (stepsOf after ++ later)) := by
    rw [during]
    simp [Move.steps]
  obtain ⟨first, rest, rfl, is, -⟩ := List.map_eq_append_iff.1 split
  refine ⟨first, now, d, List.prefix_append _ _, ?_, rfl, rfl⟩
  rw [is, split]
  refine ⟨fresh, candidate, w.consumer, timeout, _, rfl, ?_⟩
  rw [run_append]
  exact answer.symm

/-- What it means that the progress of a ticket is kept in a history. -/
structure KeepsProgress (workers : ι → Worker η) (events : List Event) (id : TicketId) : Prop where
  /-- The snapshot of the latest result that has one is stored. -/
  stored : ∀ row, (afterEvents events).tickets.get? id = some row →
    row.snapshot = progress id events
  /-- No call but the commit of a result with a snapshot changes it. -/
  step : ∀ before event later, events = before ++ event :: later →
    ∀ row, (afterEvents before).tickets.get? id = some row →
    ∃ next, (afterEvents (before ++ [event])).tickets.get? id = some next ∧
      next.snapshot = (lastSnapshot (event.committed id (afterEvents before))).or row.snapshot
  /-- Such a snapshot was returned by the handler of the poll that commits it. -/
  returned : ∀ event ∈ events, event.step.call.isCommit = true →
    ∃ i d pulse result s moves, event.result = some result ∧
      Reaches ((workers i).handling d).run s moves (.done (.ok (pulse, result))) ∧
      (result.snapshot = none ∨
        ∃ handler envelope, .own (.handle handler envelope) [] (.ok result) ∈ moves)
  /-- A claim hands it out as it is then. -/
  claimed : ∀ before now d, before <+: events →
    ClaimedAfter (events.map Event.step) (before.map Event.step) now d → d.ticket.id = id →
    d.ticket.snapshot = progress id before
  /-- A handler is given it as it was at the claim. -/
  handed : ∀ i past moves later handler envelope next,
    events.map Event.step = past ++ stepsOf moves ++ later →
    Reaches (workers i).runOnce.run (run .empty past) moves
      (Program.ask (.handle handler envelope) next) → envelope.ticket = id →
    ∃ before now d, before <+: events ∧
      ClaimedAfter (events.map Event.step) (before.map Event.step) now d ∧
      d.ticket.id = id ∧ envelope.snapshot = progress id before

theorem PoolRun.returned {events : List Event} (pool : PoolRun workers events) {event : Event}
    (mem : event ∈ events) (commit : event.step.call.isCommit = true) :
    ∃ i d pulse result s moves, event.result = some result ∧
      Reaches ((workers i).handling d).run s moves (.done (.ok (pulse, result))) ∧
      (result.snapshot = none ∨
        ∃ handler envelope, .own (.handle handler envelope) [] (.ok result) ∈ moves) := by
  obtain ⟨before, later, rfl⟩ := List.append_of_mem mem
  obtain ⟨i, d, result, label, concludes⟩ := pool.written before event later rfl commit
  obtain ⟨_, _, _, _, pulse, -, -, handles, -⟩ := concludes
  obtain ⟨moves, -, reached⟩ := handles.reaches
  obtain ⟨name, became⟩ := Worker.handles_of_handling reached
  exact ⟨i, d, pulse, result, _, moves, label, reached, became.returned_of_snapshot⟩

/-- Progress is kept by any number of workers, whatever else happens to a ticket. -/
theorem progress_kept {events : List Event} (pool : PoolRun workers events) (id : TicketId) :
    KeepsProgress workers events id where
  stored := (pool.progressed id).stored
  step := by
    rintro before event later rfl row stored
    have split : before ++ event :: later = before ++ [event] ++ later := by simp
    rw [split] at pool
    obtain ⟨next, becomes, change⟩ := ticketEvent pool.of_append stored
    exact ⟨next, becomes, change.snapshot⟩
  returned := fun event mem commit => pool.returned mem commit
  claimed := by
    rintro before now d first claimed rfl
    exact pool.snapshot_of_claim claimed first
  handed := by
    rintro i past moves later handler envelope next during reached rfl
    obtain ⟨before, now, d, first, claimed, ticket, snapshot⟩ :=
      claimedAfter_of_handle during reached
    refine ⟨before, now, d, first, claimed, ticket.symm, ?_⟩
    rw [snapshot, ticket]
    exact pool.snapshot_of_claim claimed first

end

/-! A worker whose handler puts the work off and leaves a snapshot for the next attempt. -/

/-- A serializer that writes nothing, and so finds no value. -/
def blank : Serializer := ⟨"blank", "BlankSerializer", fun _ => .ok [], fun _ => .ok .null⟩

def blankType : PayloadType := ⟨"type", "Type", .optional .bool, fun _ => none⟩

def scribe : Worker Unit := { clerk with registry := ⟨blank, [(blankType, ())]⟩ }

def scribeResult : HandlerResult := ⟨.deferred default, some [1]⟩

def scribeCommits : Step := ⟨freshFrom 3000, .commit runner ticketAtFirst.id ⟨.ofNat 2000⟩
  ⟨.delayed, 0, some default, some [1]⟩ default⟩

def scribeDelivery : Delivery :=
  ⟨{ clerkDelivery.ticket with
    state := .inProgress, snapshot := some [1], token := ⟨.ofNat 4000⟩ }, oneMessage⟩

def scribeClaims : Step := ⟨freshFrom 4000, .tryClaim
  { clerkDelivery.ticket with token := ⟨.ofNat 3000⟩ } runner clerk.policy.processingTimeout default⟩

/-- Its poll up to the commit. -/
def scribeWorks : List Event :=
  (clerkAtWork ++ clerkSeeks).map (Event.mk · none) ++ [⟨scribeCommits, some scribeResult⟩]

/-- The ticket is claimed once more. -/
def scribeHistory : List Event := scribeWorks ++ [⟨scribeClaims, none⟩]

theorem handling_scribe : Runs (scribe.handling clerkDelivery).run
    (run .empty (clerkAtWork ++ clerkSeeks)) [] (.ok (0, scribeResult)) := by
  refine .elsewhere (some ⟨⟨1⟩, "type", "Type"⟩) (fun _ => ⟨nofun, nofun⟩) ?_
  refine .elsewhere 0 (fun _ => ⟨nofun, nofun⟩) ?_
  refine .elsewhere (.ok scribeResult) (fun _ => ⟨nofun, nofun⟩) ?_
  exact .done

theorem concludes_scribe :
    scribe.Concludes (clerkAtWork ++ clerkSeeks) clerkDelivery scribeResult scribeCommits.call := by
  refine ⟨clerkAtWork, clerkSeeks, [], [], 0, rfl, seeking_clerk, handling_scribe, ?_⟩
  refine .elsewhere () (fun _ => ⟨nofun, nofun⟩) ?_
  refine .elsewhere default (fun _ => ⟨nofun, nofun⟩) ?_
  refine .elsewhere default (fun _ => ⟨nofun, nofun⟩) ?_
  exact .here

theorem poolRun_scribe : PoolRun (fun _ : Unit => scribe) scribeHistory where
  ids := by decide +kernel
  tokens := by decide +kernel
  written :=
    have first := WrittenByWorkers.concat (.of_quiet (by decide +kernel)) fun _ =>
      ⟨(), clerkDelivery, scribeResult, rfl, concludes_scribe⟩
    first.concat nofun

theorem progress_kept_scribe :
    PoolRun (fun _ : Unit => scribe) scribeHistory ∧
    ClaimedAfter (scribeHistory.map Event.step) (scribeWorks.map Event.step) default
      scribeDelivery ∧
    scribeDelivery.ticket.snapshot = progress ticketAtFirst.id scribeWorks ∧
    progress ticketAtFirst.id scribeWorks = some [1] := by
  have claimed : ClaimedAfter (scribeHistory.map Event.step) (scribeWorks.map Event.step) default
      scribeDelivery :=
    ⟨freshFrom 4000, _, runner, clerk.policy.processingTimeout, [], rfl, rfl⟩
  have kept := progress_kept poolRun_scribe ticketAtFirst.id
  exact ⟨poolRun_scribe, claimed, kept.claimed _ _ _ (List.prefix_append _ _) claimed rfl,
    by decide +kernel⟩

end MessageBus.Store
