import Mathlib.Algebra.BigOperators.Group.Finset.Basic
import Mathlib.Data.Fintype.Basic
import MessageBus.Proofs.Bookkeeping

/-! What workers have counted balances with what is stored. The commits of a run are those that its
polls have noted, and each poll counts the state that its commit has written, unless it is still on its
way from the one to the other. -/
namespace MessageBus.Traffic
open Store Routine
variable {κ ι η : Type} {workers : ι → Worker η}

/-- Nobody but polls writes results and counts. -/
theorem routine_avoids_closing {activity : Activity ι} (other : ∀ i, activity ≠ .poll i) :
    Avoids Request.isClosing (activity.routine workers) := by
  have message (self : Publisher.Identity) (payload : Payload) (publication : Publication) :
      Avoids Request.isClosing (self.message payload publication : StoreRoutine η Message).run :=
    (message_avoids self payload publication).mono Request.isWriting_of_isClosing
  cases activity with
  | publish self payload publication =>
    exact .bind (message self payload publication) fun _ => .bind (.ask rfl) fun _ => .ask rfl
  | publishTo self payload targets =>
    exact .bind (message self payload .plain) fun _ => .ask rfl
  | poll i => exact absurd rfl (other i)
  | lookUp lookup => exact (lookup_avoids lookup).mono fun request closes =>
      request.isBeyondLookup_of_isWriting (request.isWriting_of_isClosing closes)

theorem books_routine (workers : ι → Worker η) (activity : Activity ι) :
    Books (fun _ owed => owed = []) [] (activity.routine workers) := by
  by_cases poll : ∃ i, activity = .poll i
  · obtain ⟨i, rfl⟩ := poll
    exact (workers i).books_runOnce
  · exact .of_avoids (routine_avoids_closing fun i is => poll ⟨i, is⟩) (.always (fun _ => rfl) _)

/-- What all tasks together have noted of their moves. -/
def noted (note : Move η → List TicketState) (tasks : List (Task κ ι η)) : List TicketState :=
  tasks.flatMap fun t => t.moves.flatMap note

section
variable {note : Move η → List TicketState} {state : TicketState}

theorem noted_sees (alone : ∀ step, note (.other step) = []) (tasks : List (Task κ ι η))
    (steps : List Step) : noted note (tasks.map (Task.sees steps)) = noted note tasks := by
  have nothing : (steps.map Move.other).flatMap note = [] := by
    simp [List.flatMap_eq_nil_iff, alone]
  rw [noted, List.flatMap_map]
  refine List.flatMap_congr fun t _ => ?_
  rw [Task.sees, List.flatMap_append, nothing, List.append_nil]

theorem noted_begins (tasks : List (Task κ ι η)) (activity : Activity ι) (k : κ) (past : List Step)
    (routine : Routine η activity.Result) :
    noted note (tasks ++ [⟨activity, k, past, [], routine⟩]) = noted note tasks := by
  simp [noted]

theorem count_noted_answers (alone : ∀ step, note (.other step) = [])
    {before after : List (Task κ ι η)} {t : Task κ ι η} {request : Request η} {steps : List Step}
    {answer : request.Answer} {left : Routine η t.activity.Result} :
    (noted note (before.map (Task.sees steps) ++ t.goesOn request steps answer left ::
        after.map (Task.sees steps))).count state =
      (noted note (before ++ t :: after)).count state +
        (note (.own request steps answer)).count state := by
  have first := noted_sees alone before steps
  have last := noted_sees alone after steps
  unfold noted at *
  simp only [List.flatMap_append, List.flatMap_cons, first, last, Task.goesOn, List.count_append]
  simp
  omega

end

/-- What is written in a run is what its tasks have noted. -/
theorem written_of_answered {request : Request η} {s : Store} {steps : List Step}
    {answer : request.Answer} (h : Answered request s steps answer) :
    s.written steps = Routine.written request answer := by
  cases h with
  | store fresh => exact List.append_nil _
  | attempt fresh => exact List.append_nil _
  | @givenUp call => cases call <;> rfl
  | elsewhere outside =>
    cases request with
    | store call => exact absurd rfl (outside call).1
    | attempt call => exact absurd rfl (outside call).2
    | _ => rfl

section
variable [DecidableEq κ] [DecidableEq ι] {others : Call → Prop} {w : World κ ι η}
  {state : TicketState}

theorem Reached.count_written (reached : Reached workers (fun call => call.isCommit = false) w) :
    (Store.written .empty w.steps).count state = (noted Move.written w.tasks).count state := by
  have alone (step : Step) : (Move.other step : Move η).written = [] := rfl
  induction reached with
  | new => rfl
  | @next w _ _ proceeds ih =>
    cases proceeds with
    | call step quiet =>
      have nothing : (run .empty w.steps).written [step] = [] :=
        (List.append_nil _).trans (Call.written_of_quiet quiet _)
      rw [noted_sees alone, ← ih, written_append, nothing, List.append_nil]
    | invalidate | clear => exact ih
    | begins =>
      rw [noted_begins]
      exact ih
    | answers among asks served =>
      rw [count_noted_answers alone, ← among, ← ih, written_append, List.count_append]
      exact congrArg (_ + List.count state ·) (written_of_answered served.answered)

/-- One more poll of a worker. -/
theorem sum_update_tally [Fintype ι] (stats : ι → WorkerStats) (result : state.isResult = true)
    (j : ι) (outcome : PollOutcome) :
    ∑ i, (Function.update stats j ((stats j).tally outcome) i).count state =
      ∑ i, (stats i).count state + outcome.told.count state := by
  have rest : ∑ i ∈ Finset.univ.erase j,
      (Function.update stats j ((stats j).tally outcome) i).count state =
        ∑ i ∈ Finset.univ.erase j, (stats i).count state := by
    refine Finset.sum_congr rfl fun i mem => ?_
    rw [Function.update_of_ne (Finset.ne_of_mem_erase mem)]
  rw [← Finset.add_sum_erase _ _ (Finset.mem_univ j), rest, Function.update_self,
    (stats j).count_tally outcome result,
    ← Finset.add_sum_erase _ (fun i => (stats i).count state) (Finset.mem_univ j)]
  exact Nat.add_right_comm _ _ _

theorem sum_counting [Fintype ι] (stats : ι → WorkerStats) (result : state.isResult = true)
    {activity : Activity ι} {request : Request η}
    (polls : (∀ i, activity ≠ .poll i) → request.isClosing = false) :
    ∑ i, (counting stats activity request i).count state =
      ∑ i, (stats i).count state + (told request).count state := by
  cases request with
  | tally outcome =>
    cases activity with
    | poll j => exact sum_update_tally stats result j outcome
    | publish | publishTo | lookUp => cases polls nofun
  | _ => cases activity <;> rfl

/-- What is counted is what the tasks have told. -/
theorem Reached.count_told [Fintype ι] (reached : Reached workers others w)
    (result : state.isResult = true) :
    ∑ i, (w.stats i).count state = (noted Move.told w.tasks).count state := by
  have alone (step : Step) : (Move.other step : Move η).told = [] := rfl
  induction reached with
  | new =>
    refine Finset.sum_eq_zero fun i _ => ?_
    cases state <;> rfl
  | @next w v reached proceeds ih =>
    cases proceeds with
    | call =>
      rw [noted_sees alone]
      exact ih
    | invalidate | clear => exact ih
    | begins =>
      rw [noted_begins]
      exact ih
    | @answers before t after _ _ _ _ _ among asks =>
      rw [count_noted_answers alone, ← among, ← ih]
      refine sum_counting w.stats result fun other => ?_
      have follows := reached.follows t (among ▸ Caching.mem_middle _ _ _)
      have left := (follows.reaches.avoids (routine_avoids_closing other)).1
      rw [asks] at left
      exact left.1

theorem Reached.consistent (reached : Reached workers others w) (i : ι) :
    (w.stats i).Consistent := by
  induction reached with
  | new => exact ⟨rfl, rfl⟩
  | @next w v reached proceeds ih =>
    cases proceeds with
    | call | invalidate | clear | begins => exact ih
    | @answers before t after request _ _ _ _ among asks =>
      obtain ⟨activity, k, past, moves, left⟩ := t
      dsimp only at asks
      cases request with
      | tally outcome =>
        cases activity with
        | poll j =>
          have follows := reached.follows _ (among ▸ Caching.mem_middle before after _)
          obtain ⟨owed, books⟩ := (workers j).books_runOnce.reaches follows.reaches
          rw [asks] at books
          obtain ⟨tells, results⟩ := books.1 outcome rfl
          dsimp only [counting]
          rw [Function.update_apply]
          split
          · next is =>
            subst is
            exact ih.tally outcome (tells ▸ results)
          · exact ih
        | _ => exact ih
      | _ => cases activity <;> exact ih

omit [DecidableEq κ] [DecidableEq ι] in
/-- A task that is about to commit is a poll. -/
theorem Task.Follows.asks_commit {t : Task κ ι η} {steps : List Step} {request : Request η}
    {next : request.Answer → Routine η t.activity.Result} {call : Call}
    (follows : t.Follows workers steps) (asks : t.left = Program.ask request next)
    (is : request = .store call ∨ request = .attempt call) (commit : call.isCommit = true) :
    ∃ i past during, steps = past ++ during ∧
      Asks (.store call) (workers i).runOnce.run (run .empty past) during := by
  have closing : request.isClosing = true := by
    rcases is with rfl | rfl <;> exact commit
  obtain ⟨activity, k, past, moves, left⟩ := t
  have reaches := follows.reaches
  dsimp only at asks reaches
  rw [asks] at reaches
  cases activity with
  | poll i =>
    refine ⟨i, past, stepsOf moves, follows.steps, ?_⟩
    rcases is with rfl | rfl
    · exact reaches.asks
    · have quiet := (reaches.avoids (workers i).runOnce_attempts_no_commit).1.1
      exact absurd (commit.symm.trans quiet) Bool.false_ne_true.symm
  | _ =>
    have quiet := (reaches.avoids (routine_avoids_closing nofun)).1.1
    exact absurd (closing.symm.trans quiet) Bool.false_ne_true.symm

/-- Whatever is committed is committed by a poll. -/
theorem Reached.commits_asked
    (reached : Reached workers (fun call => call.isCommit = false) w) :
    ∀ before step later, w.steps = before ++ step :: later → step.call.isCommit = true →
      ∃ i past during, before = past ++ during ∧
        Asks (.store step.call) (workers i).runOnce.run (run .empty past) during := by
  induction reached with
  | new =>
    intro before step later split
    cases before <;> cases split
  | @next w v reached proceeds ih =>
    cases proceeds with
    | call step quiet =>
      intro before last later split commit
      rcases split_append split with ⟨rest, is⟩ | ⟨middle, rfl, tail⟩
      · exact ih before last rest is commit
      · cases middle with
        | nil =>
          cases tail
          rw [quiet] at commit
          cases commit
        | cons first middle => simp at tail
    | invalidate | clear | begins => exact ih
    | @answers first t last _ _ _ _ _ among asks served =>
      intro before step later split commit
      rcases split_append split with ⟨rest, is⟩ | ⟨middle, rfl, tail⟩
      · exact ih before step rest is commit
      · obtain ⟨rfl, is⟩ := served.answered.of_split tail
        have follows := reached.follows t (among ▸ Caching.mem_middle first last t)
        rw [List.append_nil]
        exact follows.asks_commit asks is commit

theorem Reached.proper (reached : Reached workers (fun call => call.isCommit = false) w)
    (ids : (issuedTickets .empty w.steps).Nodup) (tokens : (issuedTokens .empty w.steps).Nodup) :
    ProperRun w.steps := by
  obtain ⟨events, same, written⟩ := exists_history w.steps reached.commits_asked
  exact ⟨ids, tokens, same ▸ written.commitsUnderClaims⟩

/-- At a time when nobody is between a commit and its count, the tasks have told what they wrote. -/
theorem Reached.told_eq_written (reached : Reached workers others w)
    (quiet : ∀ t ∈ w.tasks, ¬ Between t.moves) :
    noted Move.written w.tasks = noted Move.told w.tasks :=
  List.flatMap_congr fun t mem =>
    (books_routine workers t.activity).settled (reached.follows t mem).reaches (quiet t mem) (.inl rfl)

theorem Reached.sum_count [Fintype ι]
    (reached : Reached workers (fun call => call.isCommit = false) w)
    (ids : (issuedTickets .empty w.steps).Nodup) (tokens : (issuedTokens .empty w.steps).Nodup)
    (quiet : ∀ t ∈ w.tasks, ¬ Between t.moves) (done : state.isTerminal = true) :
    ∑ i, (w.stats i).count state = w.store.inState state := by
  rw [reached.count_told (TicketState.isResult_of_isTerminal done), ← reached.told_eq_written quiet,
    ← reached.count_written]
  exact (inState_run (reached.proper ids tokens) done).symm

/-- What the workers have counted balances with the store. When nobody is between a commit and its
count, as many tickets are completed as all workers together have counted, and as many suspended; and
the counts of each worker add up at any time. -/
theorem statistics_balance [Fintype ι]
    (reached : Reached workers (fun call => call.isCommit = false) w) :
    ((issuedTickets .empty w.steps).Nodup → (issuedTokens .empty w.steps).Nodup →
      (∀ t ∈ w.tasks, ¬ Between t.moves) →
      ∑ i, (w.stats i).completed = w.store.inState .completed ∧
      ∑ i, (w.stats i).suspended = w.store.inState .suspended) ∧
    ∀ i, (w.stats i).Consistent := by
  refine ⟨fun ids tokens quiet => ?_, reached.consistent⟩
  have balance (state : TicketState) (done : state.isTerminal = true) :
      ∑ i, (w.stats i).count state = w.store.inState state :=
    reached.sum_count ids tokens quiet done
  exact ⟨balance .completed rfl, balance .suspended rfl⟩

end

/-! The letter is counted. -/

theorem not_between_concat (moves : List (Move η)) (outcome : PollOutcome) (steps : List Step) :
    ¬ Between (moves ++ [.own (.tally outcome) steps ()]) := by
  rintro ⟨before, request, _, answer, after, split, commit, uncounted⟩
  rcases split_append split with ⟨rest, rfl⟩ | ⟨middle, rfl, tail⟩
  · rw [List.append_assoc, List.cons_append] at split
    have is := (List.cons.inj (List.append_cancel_left split)).2
    refine uncounted outcome ?_
    rw [← is, requestsOf_append]
    exact List.mem_append_right _ List.mem_cons_self
  · cases middle with
    | nil =>
      cases tail
      cases commit
    | cons first middle => simp at tail

theorem not_between_of_quiet {moves : List (Move η)}
    (quiet : ∀ request ∈ requestsOf moves, request.isCommit = false) : ¬ Between moves := by
  rintro ⟨before, request, steps, answer, after, rfl, commit, -⟩
  have made : request ∈ requestsOf (before ++ .own request steps answer :: after) := by
    rw [requestsOf_append]
    exact List.mem_append_right _ List.mem_cons_self
  exact absurd (commit.symm.trans (quiet request made)) Bool.false_ne_true.symm

theorem statistics_balance_letter :
    ∃ w : World Unit Unit Unit,
      Reached (fun _ => reader .bool) (fun call => call.isCommit = false) w ∧
      (issuedTickets .empty w.steps).Nodup ∧ (issuedTokens .empty w.steps).Nodup ∧
      (∀ t ∈ w.tasks, ¬ Between t.moves) ∧ w.store.inState .completed = 1 ∧
      ∑ i, (w.stats i).completed = w.store.inState .completed := by
  have decoded : Serializer.json.decode (letterType .bool) (Shape.bool.encode true).toBytes =
      .ok true := rfl
  obtain ⟨w, reached, steps, tasks⟩ := reached_fetched .bool true
    (fun call => call.isCommit = false) rfl (by decide) (reading_attended .bool true decoded)
  have ids : (issuedTickets .empty w.steps).Nodup := by
    rw [steps]
    decide +kernel
  have tokens : (issuedTokens .empty w.steps).Nodup := by
    rw [steps]
    decide +kernel
  have one : w.store.inState .completed = 1 := by
    rw [World.store, steps]
    decide +kernel
  have quiet : ∀ t ∈ w.tasks, ¬ Between t.moves := by
    rw [tasks]
    intro t mem
    rcases List.mem_cons.1 mem with rfl | mem
    · exact not_between_of_quiet (by decide +kernel)
    · cases List.mem_singleton.1 mem
      exact not_between_concat (Worker.clerkSeeking ++ letterClaim .bool true ::
        (reading .bool true).dropLast) (.processed ticketAtFirst.id .completed true) []
  exact ⟨w, reached, ids, tokens, quiet, one, ((statistics_balance reached).1 ids tokens quiet).1⟩

end MessageBus.Traffic