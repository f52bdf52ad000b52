import MessageBus.Proofs.Endings
import MessageBus.Proofs.Publishing

/-! A poll keeps books. What it has written to a ticket it owes to the counts of its worker, and when it
counts it counts exactly what it owes. -/
namespace MessageBus

namespace TicketState

/-- The states to which a result can lead. -/
def isResult : TicketState → Bool
  | ready | inProgress => false
  | completed | failed | suspended | delayed => true

theorem isResult_of_isTerminal {state : TicketState} (h : state.isTerminal = true) :
    state.isResult = true := by
  cases state <;> first | rfl | cases h

end TicketState

theorem TicketUpdate.isResult_ofOutcome (policy : DeliveryPolicy) (backoff : BackoffPolicy)
    (retryCount : UInt32) (outcome : DeliveryOutcome) (now : Instant) :
    (ofOutcome policy backoff retryCount outcome now).state.isResult = true := by
  cases outcome with
  | failed reason => simp only [ofOutcome]; split <;> rfl
  | completed => rfl
  | deferred due => rfl
  | rejected reason => rfl

/-- The state that a poll has brought a ticket to. -/
def PollOutcome.told : PollOutcome → List TicketState
  | processed _ state true => [state]
  | _ => []

namespace WorkerStats

/-- How often a state was committed. -/
def count (s : WorkerStats) : TicketState → Nat
  | .completed => s.completed
  | .failed => s.failed
  | .suspended => s.suspended
  | .delayed => s.deferred
  | .ready | .inProgress => 0

theorem count_tally (s : WorkerStats) (outcome : PollOutcome) {state : TicketState}
    (result : state.isResult = true) :
    (s.tally outcome).count state = s.count state + outcome.told.count state := by
  cases outcome with
  | empty => cases state <;> rfl
  | lost _ => cases state <;> rfl
  | processed _ told committed =>
    cases committed with
    | false => cases state <;> rfl
    | true =>
      cases state with
      | ready | inProgress => cases result
      | _ => cases told <;> rfl

/-- Polls are of three kinds, and what they have processed is of five. -/
structure Consistent (s : WorkerStats) : Prop where
  polls : s.polls = s.emptyPolls + s.claimsLost + s.processed
  processed : s.processed = s.completed + s.failed + s.suspended + s.deferred + s.commitsLost

theorem Consistent.tally {s : WorkerStats} (h : s.Consistent) (outcome : PollOutcome)
    (results : ∀ state ∈ outcome.told, state.isResult = true) : (s.tally outcome).Consistent := by
  refine ⟨s.polls_tally outcome h.polls, ?_⟩
  have kinds := h.processed
  cases outcome with
  | empty => exact kinds
  | lost _ => exact kinds
  | processed _ state committed =>
    cases committed with
    | false => simp only [WorkerStats.tally]; grind
    | true =>
      have result := results state List.mem_cons_self
      cases state with
      | ready | inProgress => cases result
      | _ => simp only [WorkerStats.tally, committed]; grind

end WorkerStats

/-- A request to write a result, or to count a poll. -/
def Request.isClosing {η : Type} : Request η → Bool
  | .store call | .attempt call => call.isCommit
  | .tally _ => true
  | _ => false

/-- A commit that is not made once the routine is cancelled. -/
def Request.losesCommit {η : Type} : Request η → Bool
  | .attempt call => call.isCommit
  | _ => false

theorem Request.isDelivery_of_losesCommit {η : Type} (request : Request η)
    (h : request.losesCommit = true) : request.isDelivery = true := by
  cases request with
  | attempt call => cases call <;> first | rfl | cases h
  | _ => cases h

theorem Request.isWriting_of_isClosing {η : Type} (request : Request η)
    (h : request.isClosing = true) : request.isWriting = true := by
  cases request with
  | store call | attempt call => cases call <;> first | rfl | cases h
  | tally => rfl
  | _ => cases h

theorem Request.isBooking_of_isClosing {η : Type} (request : Request η)
    (h : request.isClosing = true) : request.isBooking = true := by
  cases request with
  | store call | attempt call => cases call <;> first | rfl | cases h
  | tally => rfl
  | _ => cases h

namespace Routine
open Store
variable {η α β : Type}

/-- The state that a request has written. -/
def written : (request : Request η) → request.Answer → List TicketState
  | .store call, answer | .attempt call, answer => call.written answer
  | _, _ => []

/-- The state that a request counts. -/
def told : Request η → List TicketState
  | .tally outcome => outcome.told
  | _ => []

/-- What is written and not counted yet, after a request. -/
def owing (owed : List TicketState) (request : Request η) (answer : request.Answer) :
    List TicketState :=
  match request with
  | .tally _ => []
  | request => owed ++ written request answer

/-- The routine owes these states, and whenever it counts it counts all that it owes. -/
def Books (ends : α → List TicketState → Prop) : List TicketState → Routine η α → Prop
  | owed, Program.done a => ends a owed
  | owed, Program.ask request next =>
    (∀ outcome, request = .tally outcome →
      outcome.told = owed ∧ ∀ state ∈ owed, state.isResult = true) ∧
    ∀ answer, Books ends (owing owed request answer) (next answer)

/-- However it is answered, the routine ends so, if it ends. -/
def Yields (ends : α → Prop) : Routine η α → Prop
  | Program.done a => ends a
  | Program.ask _ next => ∀ answer, Yields ends (next answer)

theorem Yields.andThen {ends : α → Prop} (routine : Routine η β) {f : β → Routine η α}
    (h : ∀ b, Yields ends (f b)) : Yields ends (routine.andThen f) := by
  induction routine with
  | done b => exact h b
  | ask request next ih => exact fun answer => ih answer

theorem Yields.always {ends : α → Prop} (h : ∀ a, ends a) (routine : Routine η α) :
    Yields ends routine := by
  induction routine with
  | done a => exact h a
  | ask request next ih => exact fun answer => ih answer

theorem Yields.mono {ends more : α → Prop} (le : ∀ a, ends a → more a) {routine : Routine η α}
    (h : Yields ends routine) : Yields more routine := by
  induction routine with
  | done a => exact le a h
  | ask request next ih => exact fun answer => ih answer (h answer)

theorem owing_of_not_isClosing {request : Request η} (quiet : request.isClosing = false)
    (owed : List TicketState) (answer : request.Answer) : owing owed request answer = owed := by
  cases request with
  | store call | attempt call =>
    exact (congrArg (owed ++ ·) (Call.written_of_quiet quiet answer)).trans (List.append_nil _)
  | tally => cases quiet
  | _ => exact List.append_nil _

namespace Books
variable {ends : α → List TicketState → Prop} {owed : List TicketState}

theorem of_avoids {routine : Routine η α} (h : Avoids Request.isClosing routine)
    (last : Yields (ends · owed) routine) : Books ends owed routine := by
  induction routine with
  | done a => exact last
  | ask request next ih =>
    refine ⟨?_, fun answer => ?_⟩
    · rintro outcome rfl
      cases h.1
    · rw [owing_of_not_isClosing h.1]
      exact ih answer (h.2 answer) (last answer)

theorem andThen {middle : β → List TicketState → Prop} {routine : Routine η β}
    {f : β → Routine η α} (h : Books middle owed routine)
    (k : ∀ b owed, middle b owed → Books ends owed (f b)) :
    Books ends owed (routine.andThen f) := by
  induction routine generalizing owed with
  | done b => exact k b owed h
  | ask request next ih => exact ⟨h.1, fun answer => ih answer (h.2 answer)⟩

theorem bind {middle : Except StoreError β → List TicketState → Prop}
    {ends : Except StoreError α → List TicketState → Prop} {routine : StoreRoutine η β}
    {f : β → StoreRoutine η α} (h : Books middle owed routine.run)
    (k : ∀ b owed, middle (.ok b) owed → Books ends owed (f b).run)
    (breaks : ∀ e owed, middle (.error e) owed → ends (.error e) owed) :
    Books ends owed (routine >>= f).run := by
  refine andThen h fun b owed given => ?_
  cases b with
  | ok b => exact k b owed given
  | error e => exact breaks e owed given

end Books

def Move.written : Move η → List TicketState
  | .own request _ answer => Routine.written request answer
  | .other _ => []

def Move.told : Move η → List TicketState
  | .own request _ _ => Routine.told request
  | .other _ => []

/-- What was owed and what is written is counted, or owed now. -/
theorem owing_eq {owed : List TicketState} {request : Request η}
    (tells : ∀ outcome, request = .tally outcome → outcome.told = owed) (answer : request.Answer) :
    owed ++ written request answer = told request ++ owing owed request answer := by
  cases request with
  | tally outcome =>
    rw [← tells outcome rfl]
    rfl
  | _ => rfl

/-- A commit was made, and no tally since. -/
def Between (moves : List (Move η)) : Prop :=
  ∃ before request steps answer after, moves = before ++ .own request steps answer :: after ∧
    request.isCommit = true ∧ ∀ outcome, .tally outcome ∉ requestsOf after

theorem Between.cons {moves : List (Move η)} (h : Between moves) (move : Move η) :
    Between (move :: moves) := by
  obtain ⟨before, request, steps, answer, after, rfl, commit, uncounted⟩ := h
  exact ⟨move :: before, request, steps, answer, after, rfl, commit, uncounted⟩

theorem written_of_not_isCommit {request : Request η} (quiet : request.isCommit = false)
    (answer : request.Answer) : written request answer = [] := by
  cases request with
  | store call | attempt call => exact Call.written_of_quiet quiet answer
  | _ => rfl

/-- What is owed after a request is counted later. -/
theorem owing_counts {owed : List TicketState} {request : Request η} {steps : List Step}
    {answer : request.Answer} {moves : List (Move η)}
    (quiet : ¬ Between (.own request steps answer :: moves))
    (counts : owed = [] ∨ ∃ outcome, .tally outcome ∈ requestsOf (.own request steps answer :: moves)) :
    owing owed request answer = [] ∨ ∃ outcome, .tally outcome ∈ requestsOf moves := by
  by_cases later : ∃ outcome, .tally outcome ∈ requestsOf moves
  · exact .inr later
  have unwritten : request.isCommit = false := by
    cases commit : request.isCommit with
    | false => rfl
    | true =>
      exact absurd ⟨[], request, steps, answer, moves, rfl, commit, fun outcome mem =>
        later ⟨outcome, mem⟩⟩ quiet
  refine .inl ?_
  rcases counts with rfl | ⟨outcome, mem⟩
  · cases request with
    | tally => rfl
    | _ => exact written_of_not_isCommit unwritten answer
  · rcases List.mem_cons.1 mem with rfl | mem
    · rfl
    · exact absurd ⟨outcome, mem⟩ later

namespace Books
variable {ends : α → List TicketState → Prop} {owed : List TicketState} {s : Store}
  {moves : List (Move η)} {routine rest : Routine η α}

/-- It goes on keeping books. -/
theorem reaches (h : Books ends owed routine) (reached : Reaches routine s moves rest) :
    ∃ owed, Books ends owed rest := by
  induction reached generalizing owed with
  | here => exact ⟨owed, h⟩
  | other step _ ih => exact ih h
  | own answered _ ih => exact ih (h.2 _)

/-- Once it has counted after its last commit, it has told what it has written. -/
theorem settled (h : Books ends owed routine) (reached : Reaches routine s moves rest)
    (quiet : ¬ Between moves) (counts : owed = [] ∨ ∃ outcome, .tally outcome ∈ requestsOf moves) :
    owed ++ moves.flatMap Move.written = moves.flatMap Move.told := by
  induction reached generalizing owed with
  | here =>
    rcases counts with rfl | ⟨_, mem⟩
    · rfl
    · cases mem
  | other step _ ih => exact ih h (fun between => quiet (between.cons _)) counts
  | @own request answer _ _ _ steps moves _ _ ih =>
    have later : ¬ Between moves := fun between => quiet (between.cons _)
    rw [List.flatMap_cons, List.flatMap_cons, ← List.append_assoc]
    change (owed ++ written request answer) ++ _ = told request ++ _
    rw [owing_eq fun outcome is => (h.1 outcome is).1, List.append_assoc,
      ih (h.2 answer) later (owing_counts quiet counts)]

end Books

theorem Answered.of_split {request : Request η} {s : Store} {steps middle later : List Step}
    {step : Step} {answer : request.Answer} (h : Answered request s steps answer)
    (split : steps = middle ++ step :: later) :
    middle = [] ∧ (request = .store step.call ∨ request = .attempt step.call) := by
  have single {fresh : Fresh} {call : Call} (is : [⟨fresh, call⟩] = middle ++ step :: later) :
      middle = [] ∧ call = step.call := by
    cases middle with
    | nil =>
      cases is
      exact ⟨rfl, rfl⟩
    | cons first middle => simp at is
  cases h with
  | store =>
    obtain ⟨none, rfl⟩ := single split
    exact ⟨none, .inl rfl⟩
  | attempt =>
    obtain ⟨none, rfl⟩ := single split
    exact ⟨none, .inr rfl⟩
  | givenUp | elsewhere => simp at split

/-- What a routine has come to is what it asks. -/
theorem Reaches.asks {routine : Routine η α} {s : Store} {moves : List (Move η)}
    {request : Request η} {next : request.Answer → Routine η α}
    (h : Reaches routine s moves (Program.ask request next)) :
    Asks request routine s (stepsOf moves) := by
  generalize same : Program.ask request next = left at h
  induction h with
  | here =>
    subst same
    exact .here
  | other step _ ih => exact .other step (ih same)
  | own answered _ ih => exact .asked answered (ih same)

end Routine

namespace Worker
open Store Routine
variable {η : Type} (w : Worker η)

/-- What is owed when a commit is over, with what is said about it. -/
def Reported : Except StoreError PollOutcome → List TicketState → Prop
  | .ok outcome, owed => outcome.told = owed ∧ ∀ state ∈ owed, state.isResult = true
  | .error _, owed => owed = []

theorem reporting_yields (d : Delivery) (result : HandlerResult) (state : TicketState)
    (committed : CommitOutcome) :
    Yields (· = .ok (.processed d.ticket.id state committed.isCommitted))
      (w.reporting d result state committed).run := by
  unfold reporting
  split
  · rw [run_lift_bind]
    exact .andThen _ fun _ => rfl
  · rfl

theorem books_committing (d : Delivery) (result : HandlerResult) (made now : Instant) :
    Books Reported [] (w.committing d result made now).run := by
  have leads : (w.update d.ticket result made).state.isResult = true :=
    TicketUpdate.isResult_ofOutcome _ _ _ _ _
  refine ⟨nofun, ?_⟩
  rintro (e | committed)
  · exact rfl
  · have reported : Reported (.ok (.processed d.ticket.id (w.update d.ticket result made).state
        committed.isCommitted)) (Call.written (.commit w.consumer d.ticket.id d.ticket.token
          (w.update d.ticket result made) now) (.ok committed)) := by
      cases committed with
      | lost => exact ⟨rfl, nofun⟩
      | committed token =>
        refine ⟨rfl, fun state mem => ?_⟩
        cases List.mem_singleton.1 mem
        exact leads
    refine .of_avoids ((w.reporting_avoids_booking d result _ committed).mono
      Request.isBooking_of_isClosing) ((w.reporting_yields d result _ committed).mono ?_)
    rintro _ rfl
    exact reported

theorem books_finishing {outcome : PollOutcome} {owed : List TicketState}
    (reported : Reported (.ok outcome) owed) :
    Books (fun _ owed => owed = []) owed (finishing outcome : StoreRoutine η PollOutcome).run := by
  refine ⟨?_, fun _ => rfl⟩
  rintro told ⟨⟩
  exact reported

theorem books_runOnce : Books (fun _ owed => owed = []) [] w.runOnce.run := by
  have quiet {α : Type} {routine : Routine η α} (h : Avoids Request.isBooking routine) :
      Books (fun _ owed => owed = []) [] routine :=
    .of_avoids (h.mono Request.isBooking_of_isClosing) (.always (fun _ => rfl) routine)
  rw [runOnce_eq_selecting]
  refine .bind (quiet w.selecting_avoids_booking) ?_ fun _ _ none => none
  rintro ⟨now, candidate?⟩ _ rfl
  cases candidate? with
  | none => exact books_finishing ⟨rfl, nofun⟩
  | some candidate =>
    refine ⟨nofun, ?_⟩
    rintro (e | claim)
    · exact rfl
    cases claim with
    | empty => exact books_finishing ⟨rfl, nofun⟩
    | lost ticket => exact books_finishing ⟨rfl, nofun⟩
    | claimed d =>
      change Books _ [] (w.answering (.claimed d)).run
      rw [answering_claimed]
      refine .bind (quiet (w.preparing_avoids_booking d)) ?_ fun _ _ none => none
      rintro ⟨result, made, now⟩ _ rfl
      exact .bind (w.books_committing d result made now) (fun _ _ => books_finishing)
        fun _ _ none => none

/-- No commit is given up. -/
theorem runOnce_attempts_no_commit : Avoids Request.losesCommit w.runOnce.run := by
  have quiet {α : Type} {routine : Routine η α} (h : Avoids Request.isDelivery routine) :
      Avoids Request.losesCommit routine := h.mono Request.isDelivery_of_losesCommit
  rw [runOnce_eq_selecting]
  refine .bind (quiet w.selecting_avoids) ?_
  rintro ⟨now, candidate?⟩
  cases candidate? with
  | none => exact quiet (finishing_avoids _)
  | some candidate =>
    refine .bind (.ask rfl) fun claim => ?_
    cases claim with
    | empty => exact quiet (finishing_avoids _)
    | lost ticket => exact quiet (finishing_avoids _)
    | claimed d =>
      rw [answering_claimed]
      refine .bind (quiet (w.preparing_avoids d)) ?_
      rintro ⟨result, made, now⟩
      exact .bind (.bind (.ask rfl) fun committed => quiet (w.reporting_avoids d result _ committed))
        fun outcome => quiet (finishing_avoids outcome)

end Worker

end MessageBus
