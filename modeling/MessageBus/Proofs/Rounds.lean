import MessageBus.Proofs.Surroundings
import MessageBus.Worker.Run

/-! The rounds of a worker. In each it looks whether it is cancelled, polls, and pauses or does not.
The polls may come to anything; what the worker does next depends on their outcomes, and on where it
sees that it is cancelled. -/
namespace MessageBus
open Routine

/-- The errors that another attempt does not mend. -/
inductive StoreError.Fatal : StoreError → Prop
  | integrity (operation : String) (expected affected : Nat) :
    Fatal (.integrity operation expected affected)
  | registrationConflict (entity key detail : String) :
    Fatal (.registrationConflict entity key detail)

theorem StoreError.isFatal_iff {e : StoreError} : e.isFatal = true ↔ e.Fatal := by
  constructor
  · intro h
    cases e with
    | integrity operation expected affected => exact .integrity operation expected affected
    | registrationConflict entity key detail => exact .registrationConflict entity key detail
    | _ => cases h
  · rintro (_ | _) <;> rfl

namespace Worker
variable {η : Type} {w : Worker η}

/-- A poll as the loop of a worker sees it: what came of it, and how long the worker paused after
it, if it did, with whether it was cancelled meanwhile. -/
structure Round where
  result : Except StoreError PollOutcome
  pause? : Option (Duration × Bool)

/-- The loop of a worker as it goes: the limit, the rounds, whether a cancellation was seen before a
poll, the result, and the exchanges. -/
inductive Course (w : Worker η) :
    Nat → List Round → Bool → Option (Except StoreError Unit) → List (Exchange η) → Prop
  | exhausted : Course w 0 [] false none []
  | cancelled {limit : Nat} : Course w (limit + 1) [] true (some (.ok ())) [⟨.isCancelled, true⟩]
  | polled {limit : Nat} {rounds : List Round} {seen : Bool}
    {result : Option (Except StoreError Unit)} {answer : Except StoreError PollOutcome}
    {said later : List (Exchange η)} (polls : Ends w.runOnce.run said answer)
    (next : w.afterPoll answer = .poll) (rest : Course w limit rounds seen result later) :
    Course w (limit + 1) (⟨answer, none⟩ :: rounds) seen result
      (⟨.isCancelled, false⟩ :: (said ++ later))
  | paused {limit : Nat} {rounds : List Round} {seen : Bool}
    {result : Option (Except StoreError Unit)} {answer : Except StoreError PollOutcome}
    {said later : List (Exchange η)} {span : Duration} (polls : Ends w.runOnce.run said answer)
    (next : w.afterPoll answer = .pause span) (rest : Course w limit rounds seen result later) :
    Course w (limit + 1) (⟨answer, some (span, false)⟩ :: rounds) seen result
      (⟨.isCancelled, false⟩ :: (said ++ ⟨.pause span, false⟩ :: later))
  | woken {limit : Nat} {answer : Except StoreError PollOutcome} {said : List (Exchange η)}
    {span : Duration} (polls : Ends w.runOnce.run said answer)
    (next : w.afterPoll answer = .pause span) :
    Course w (limit + 1) [⟨answer, some (span, true)⟩] false (some (.ok ()))
      (⟨.isCancelled, false⟩ :: (said ++ [⟨.pause span, true⟩]))
  | stopped {limit : Nat} {answer : Except StoreError PollOutcome}
    {result : Except StoreError Unit} {said : List (Exchange η)}
    (polls : Ends w.runOnce.run said answer) (next : w.afterPoll answer = .stop result) :
    Course w (limit + 1) [⟨answer, none⟩] false (some result) (⟨.isCancelled, false⟩ :: said)

/-- The loop from the end of a poll on, with so many polls left. -/
def goingOn (w : Worker η) (limit : Nat) : Next → Routine η (Option (Except StoreError Unit))
  | .poll => w.pollUntilStopped limit
  | .pause span => do
    if ← Routine.ask (.pause span) then return some (.ok ())
    w.pollUntilStopped limit
  | .stop result => return some result

theorem pollUntilStopped_succ (w : Worker η) (limit : Nat) :
    w.pollUntilStopped (limit + 1) = (do
      if ← Routine.ask .isCancelled then return some (.ok ())
      w.goingOn limit (w.afterPoll (← w.runOnce.run))) := by
  rw [pollUntilStopped]
  refine bind_congr fun cancelled => ?_
  cases cancelled with
  | true => rfl
  | false =>
    refine bind_congr fun answer => ?_
    cases w.afterPoll answer <;> rfl

section
variable {limit : Nat} {said : List (Exchange η)} {result : Option (Except StoreError Unit)}

/-- The loop sees a cancellation, or else polls and goes on from there. -/
theorem ends_pollUntilStopped_succ_iff :
    Ends (w.pollUntilStopped (limit + 1)) said result ↔
      (said = [⟨.isCancelled, true⟩] ∧ result = some (.ok ())) ∨
      ∃ answer first later, said = ⟨.isCancelled, false⟩ :: (first ++ later) ∧
        Ends w.runOnce.run first answer ∧
        Ends (w.goingOn limit (w.afterPoll answer)) later result := by
  rw [pollUntilStopped_succ, ends_ask_bind_iff]
  constructor
  · rintro ⟨cancelled, said, rfl, goesOn⟩
    cases cancelled with
    | true =>
      obtain ⟨rfl, rfl⟩ := ends_pure_iff.1 goesOn
      exact .inl ⟨rfl, rfl⟩
    | false =>
      obtain ⟨answer, first, later, rfl, polls, follows⟩ := ends_bind_iff.1 goesOn
      exact .inr ⟨answer, first, later, rfl, polls, follows⟩
  · rintro (⟨rfl, rfl⟩ | ⟨answer, first, later, rfl, polls, follows⟩)
    · exact ⟨true, [], rfl, .done⟩
    · exact ⟨false, _, rfl, ends_bind_iff.2 ⟨answer, first, later, rfl, polls, follows⟩⟩

/-- A pause is cut short by a cancellation, or the loop goes on after it. -/
theorem ends_goingOn_pause_iff {span : Duration} :
    Ends (w.goingOn limit (.pause span)) said result ↔
      (said = [⟨.pause span, true⟩] ∧ result = some (.ok ())) ∨
      ∃ later, said = ⟨.pause span, false⟩ :: later ∧
        Ends (w.pollUntilStopped limit) later result := by
  rw [goingOn, ends_ask_bind_iff]
  constructor
  · rintro ⟨woken, later, rfl, resumes⟩
    cases woken with
    | true =>
      obtain ⟨rfl, rfl⟩ := ends_pure_iff.1 resumes
      exact .inl ⟨rfl, rfl⟩
    | false => exact .inr ⟨later, rfl, resumes⟩
  · rintro (⟨rfl, rfl⟩ | ⟨later, rfl, resumes⟩)
    · exact ⟨true, [], rfl, .done⟩
    · exact ⟨false, later, rfl, resumes⟩

theorem course_of_ends (ends : Ends (w.pollUntilStopped limit) said result) :
    ∃ rounds seen, Course w limit rounds seen result said := by
  -- On the limit, which is what the loop recurs on; a course has its constructors by the exits.
  induction limit generalizing said with
  | zero =>
    obtain ⟨rfl, rfl⟩ := ends_pure_iff.1 ends
    exact ⟨[], false, .exhausted⟩
  | succ limit ih =>
    rcases ends_pollUntilStopped_succ_iff.1 ends with
      ⟨rfl, rfl⟩ | ⟨answer, first, later, rfl, polls, follows⟩
    · exact ⟨[], true, .cancelled⟩
    cases next : w.afterPoll answer with
    | poll =>
      rw [next] at follows
      obtain ⟨rounds, seen, rest⟩ := ih follows
      exact ⟨_, _, .polled polls next rest⟩
    | pause span =>
      rw [next] at follows
      rcases ends_goingOn_pause_iff.1 follows with ⟨rfl, rfl⟩ | ⟨later, rfl, resumes⟩
      · exact ⟨_, _, .woken polls next⟩
      · obtain ⟨rounds, seen, rest⟩ := ih resumes
        exact ⟨_, _, .paused polls next rest⟩
    | stop result =>
      rw [next] at follows
      obtain ⟨rfl, rfl⟩ := ends_pure_iff.1 follows
      rw [List.append_nil]
      exact ⟨_, _, .stopped polls next⟩

theorem Course.ends {rounds : List Round} {seen : Bool}
    (course : Course w limit rounds seen result said) :
    Ends (w.pollUntilStopped limit) said result := by
  have round {limit : Nat} {answer : Except StoreError PollOutcome} {next : Next}
      {first later : List (Exchange η)} {result : Option (Except StoreError Unit)}
      (polls : Ends w.runOnce.run first answer) (is : w.afterPoll answer = next)
      (follows : Ends (w.goingOn limit next) later result) :
      Ends (w.pollUntilStopped (limit + 1)) (⟨.isCancelled, false⟩ :: (first ++ later)) result :=
    ends_pollUntilStopped_succ_iff.2 (.inr ⟨answer, first, later, rfl, polls, is ▸ follows⟩)
  induction course with
  | exhausted => exact .done
  | cancelled => exact ends_pollUntilStopped_succ_iff.2 (.inl ⟨rfl, rfl⟩)
  | polled polls next rest ih => exact round polls next ih
  | paused polls next rest ih =>
    exact round polls next (ends_goingOn_pause_iff.2 (.inr ⟨_, rfl, ih⟩))
  | woken polls next => exact round polls next (ends_goingOn_pause_iff.2 (.inl ⟨rfl, rfl⟩))
  | @stopped limit _ _ said polls next =>
    rw [← List.append_nil said]
    exact round polls next .done

/-- The loop takes these courses and no other. -/
theorem ends_pollUntilStopped_iff :
    Ends (w.pollUntilStopped limit) said result ↔
      ∃ rounds seen, Course w limit rounds seen result said := by
  refine ⟨course_of_ends, ?_⟩
  rintro ⟨rounds, seen, course⟩
  exact course.ends

end

/-- A course that has come to its end is within every larger limit. -/
theorem Course.more {limit : Nat} {rounds : List Round} {seen : Bool}
    {result : Except StoreError Unit} {said : List (Exchange η)}
    (h : Course w limit rounds seen (some result) said) (more : Nat) :
    Course w (limit + more) rounds seen (some result) said := by
  generalize same : some result = ended at h ⊢
  induction h with
  | exhausted => cases same
  | cancelled =>
    rw [Nat.add_right_comm]
    exact .cancelled
  | polled polls next rest ih =>
    rw [Nat.add_right_comm]
    exact .polled polls next (ih same)
  | paused polls next rest ih =>
    rw [Nat.add_right_comm]
    exact .paused polls next (ih same)
  | woken polls next =>
    rw [Nat.add_right_comm]
    exact .woken polls next
  | stopped polls next =>
    rw [Nat.add_right_comm]
    exact .stopped polls next

/-! What the rounds of a life are like. -/

/-- How long a worker pauses after a poll, if it goes on. -/
def pauseAfter (w : Worker η) : Except StoreError PollOutcome → Option Duration
  | .ok .empty => some w.config.pollInterval
  | .ok (.processed ..) | .ok (.lost _) => none
  | .error e => if e.isFatal ∨ e = .cancelled then none else some w.config.errorBackoff

theorem poll_of_afterPoll {answer : Except StoreError PollOutcome}
    (next : w.afterPoll answer = .poll) : ∃ outcome, outcome ≠ .empty ∧ answer = .ok outcome := by
  unfold afterPoll at next
  split at next
  · cases next
  · next outcome busy => exact ⟨outcome, busy, rfl⟩
  · cases next
  · split at next <;> cases next

theorem pauseAfter_of_afterPoll {answer : Except StoreError PollOutcome} {span : Duration}
    (next : w.afterPoll answer = .pause span) : w.pauseAfter answer = some span := by
  unfold afterPoll at next
  split at next
  · cases next
    rfl
  · cases next
  · cases next
  · next e alive =>
    split at next
    · cases next
    · next curable =>
      cases next
      exact if_neg (not_or.2 ⟨curable, alive⟩)

theorem stop_of_afterPoll {answer : Except StoreError PollOutcome} {result : Except StoreError Unit}
    (next : w.afterPoll answer = .stop result) :
    (answer = .error .cancelled ∧ result = .ok ()) ∨
      ∃ e, e.Fatal ∧ answer = .error e ∧ result = .error e := by
  unfold afterPoll at next
  split at next
  · cases next
  · cases next
  · cases next
    exact .inl ⟨rfl, rfl⟩
  · next e _ =>
    split at next
    · next fatal =>
      cases next
      exact .inr ⟨e, StoreError.isFatal_iff.1 fatal, rfl, rfl⟩
    · cases next

/-- A pause comes after a poll that found nothing, or failed with an error that may pass. -/
theorem curable_of_pauseAfter {e : StoreError} {span : Duration}
    (pauses : w.pauseAfter (.error e) = some span) : ¬ e.Fatal ∧ e ≠ .cancelled := by
  change ite _ _ _ = _ at pauses
  split at pauses
  · cases pauses
  · next curable =>
    exact ⟨fun fatal => curable (.inl (StoreError.isFatal_iff.2 fatal)),
      fun same => curable (.inr same)⟩

/-- A round after which the worker goes on. -/
inductive Goes (w : Worker η) : Round → Prop
  | onward {outcome : PollOutcome} (busy : outcome ≠ .empty) : Goes w ⟨.ok outcome, none⟩
  | rested {answer : Except StoreError PollOutcome} {span : Duration}
    (pauses : w.pauseAfter answer = some span) : Goes w ⟨answer, some (span, false)⟩

/-- A round that is the last one, and what the worker comes to. -/
inductive Stops (w : Worker η) : Round → Except StoreError Unit → Prop
  | broken {e : StoreError} (fatal : e.Fatal) : Stops w ⟨.error e, none⟩ (.error e)
  | cancelled : Stops w ⟨.error .cancelled, none⟩ (.ok ())
  | woken {answer : Except StoreError PollOutcome} {span : Duration}
    (pauses : w.pauseAfter answer = some span) : Stops w ⟨answer, some (span, true)⟩ (.ok ())

/-- The rounds of a loop: all of them go on, or the last one stops. -/
inductive Settled (w : Worker η) (limit : Nat) :
    List Round → Bool → Option (Except StoreError Unit) → Prop
  | exhausted {rounds : List Round} (goes : ∀ round ∈ rounds, Goes w round)
    (all : rounds.length = limit) : Settled w limit rounds false none
  | seen {rounds : List Round} (goes : ∀ round ∈ rounds, Goes w round) :
    Settled w limit rounds true (some (.ok ()))
  | stopped {rounds : List Round} {last : Round} {result : Except StoreError Unit}
    (goes : ∀ round ∈ rounds, Goes w round) (stops : Stops w last result) :
    Settled w limit (rounds ++ [last]) false (some result)

theorem Settled.cons {limit : Nat} {round : Round} {rounds : List Round} {seen : Bool}
    {result : Option (Except StoreError Unit)} (first : Goes w round)
    (h : Settled w limit rounds seen result) :
    Settled w (limit + 1) (round :: rounds) seen result := by
  cases h with
  | exhausted goes all =>
    exact .exhausted (List.forall_mem_cons.2 ⟨first, goes⟩) (congrArg (· + 1) all)
  | seen goes => exact .seen (List.forall_mem_cons.2 ⟨first, goes⟩)
  | stopped goes stops =>
    rw [← List.cons_append]
    exact .stopped (List.forall_mem_cons.2 ⟨first, goes⟩) stops

theorem Settled.alone {limit : Nat} {last : Round} {result : Except StoreError Unit}
    (stops : Stops w last result) : Settled w limit [last] false (some result) :=
  @Settled.stopped _ w limit [] last result nofun stops

theorem Course.settled {limit : Nat} {rounds : List Round} {seen : Bool}
    {result : Option (Except StoreError Unit)} {said : List (Exchange η)}
    (h : Course w limit rounds seen result said) : Settled w limit rounds seen result := by
  induction h with
  | exhausted => exact .exhausted nofun rfl
  | cancelled => exact .seen nofun
  | polled polls next rest ih =>
    obtain ⟨outcome, busy, rfl⟩ := poll_of_afterPoll next
    exact .cons (.onward busy) ih
  | paused polls next rest ih => exact .cons (.rested (pauseAfter_of_afterPoll next)) ih
  | woken polls next => exact .alone (.woken (pauseAfter_of_afterPoll next))
  | stopped polls next =>
    rcases stop_of_afterPoll next with ⟨rfl, rfl⟩ | ⟨e, fatal, rfl, rfl⟩
    · exact .alone .cancelled
    · exact .alone (.broken fatal)

theorem Goes.curable {round : Round} (h : Goes w round) {e : StoreError}
    (failed : round.result = .error e) : ¬ e.Fatal ∧ e ≠ .cancelled := by
  cases h with
  | onward => cases failed
  | rested pauses =>
    cases failed
    exact curable_of_pauseAfter pauses

theorem Goes.not_woken {round : Round} (h : Goes w round) (span : Duration) :
    round.pause? ≠ some (span, true) := by
  cases h with
  | onward | rested => exact nofun

theorem Goes.span {round : Round} (h : Goes w round) :
    round.pause?.map Prod.fst = w.pauseAfter round.result := by
  cases h with
  | @onward outcome busy =>
    cases outcome with
    | empty => exact absurd rfl busy
    | processed | lost => rfl
  | rested pauses => exact pauses.symm

theorem Stops.span {round : Round} {result : Except StoreError Unit} (h : Stops w round result) :
    round.pause?.map Prod.fst = w.pauseAfter round.result := by
  cases h with
  | broken fatal => exact (if_pos (.inl (StoreError.isFatal_iff.2 fatal))).symm
  | cancelled => rfl
  | woken pauses => exact pauses.symm

theorem Stops.error_iff {round : Round} {result : Except StoreError Unit} (h : Stops w round result)
    (e : StoreError) : result = .error e ↔ e.Fatal ∧ round.result = .error e := by
  cases h with
  | broken fatal =>
    constructor
    · intro same
      cases same
      exact ⟨fatal, rfl⟩
    · rintro ⟨-, failed⟩
      cases failed
      rfl
  | cancelled =>
    refine iff_of_false nofun ?_
    rintro ⟨fatal, same⟩
    cases same
    cases fatal
  | woken pauses =>
    refine iff_of_false nofun ?_
    rintro ⟨fatal, failed⟩
    cases failed
    exact (curable_of_pauseAfter pauses).1 fatal

theorem Stops.ok_iff {round : Round} {result : Except StoreError Unit} (h : Stops w round result) :
    result = .ok () ↔
      round.result = .error .cancelled ∨ ∃ span, round.pause? = some (span, true) := by
  cases h with
  | broken fatal =>
    refine iff_of_false nofun ?_
    rintro (same | ⟨span, woken⟩)
    · cases same
      cases fatal
    · cases woken
  | cancelled => exact iff_of_true rfl (.inl rfl)
  | woken pauses => exact iff_of_true rfl (.inr ⟨_, rfl⟩)

namespace Settled
variable {limit : Nat} {rounds : List Round} {seen : Bool}
variable {result : Option (Except StoreError Unit)} (h : Settled w limit rounds seen result)
include h

theorem spans : ∀ round ∈ rounds, round.pause?.map Prod.fst = w.pauseAfter round.result := by
  cases h with
  | exhausted goes | seen goes => exact fun round mem => (goes round mem).span
  | stopped goes stops =>
    exact List.forall_mem_append.2
      ⟨fun round mem => (goes round mem).span, List.forall_mem_singleton.2 stops.span⟩

theorem faulted_iff (e : StoreError) :
    result = some (.error e) ↔ e.Fatal ∧ ∃ round ∈ rounds, round.result = .error e := by
  have none {rounds : List Round} (goes : ∀ round ∈ rounds, Goes w round) (fatal : e.Fatal) :
      ¬ ∃ round ∈ rounds, round.result = .error e := by
    rintro ⟨round, mem, failed⟩
    exact ((goes round mem).curable failed).1 fatal
  cases h with
  | exhausted goes all => exact iff_of_false nofun fun ⟨fatal, failed⟩ => none goes fatal failed
  | seen goes => exact iff_of_false nofun fun ⟨fatal, failed⟩ => none goes fatal failed
  | @stopped rounds last outcome goes stops =>
    rw [Option.some_inj, stops.error_iff]
    refine and_congr_right fun fatal => ?_
    simp only [List.mem_append, List.mem_singleton, or_and_right, exists_or, exists_eq_left,
      none goes fatal, false_or]

theorem stopped_iff : result = some (.ok ()) ↔ seen = true ∨ ∃ round ∈ rounds,
    round.result = .error .cancelled ∨ ∃ span, round.pause? = some (span, true) := by
  have none {rounds : List Round} (goes : ∀ round ∈ rounds, Goes w round) : ¬ ∃ round ∈ rounds,
      round.result = .error .cancelled ∨ ∃ span, round.pause? = some (span, true) := by
    rintro ⟨round, mem, failed | ⟨span, woken⟩⟩
    · exact ((goes round mem).curable failed).2 rfl
    · exact (goes round mem).not_woken span woken
  cases h with
  | exhausted goes all =>
    refine iff_of_false nofun ?_
    rintro (seen | stops)
    · cases seen
    · exact none goes stops
  | seen goes => exact iff_of_true rfl (.inl rfl)
  | @stopped rounds last outcome goes stops =>
    rw [Option.some_inj, stops.ok_iff]
    simp only [List.mem_append, List.mem_singleton, or_and_right, exists_or, exists_eq_left,
      none goes, Bool.false_eq_true, false_or]

/-- A round goes on, or it is the last one and stops. -/
theorem goes_or_stops {before after : List Round} {round : Round}
    (split : rounds = before ++ round :: after) : Goes w round ∨
      after = [] ∧ seen = false ∧ ∃ outcome, result = some outcome ∧ Stops w round outcome := by
  cases h with
  | exhausted goes | seen goes =>
    subst split
    exact .inl (goes round (List.mem_append_right _ List.mem_cons_self))
  | stopped goes stops =>
    rcases Store.split_append split with ⟨rest, rfl⟩ | ⟨middle, rfl, is⟩
    · exact .inl (goes round (List.mem_append_right _ List.mem_cons_self))
    · cases middle with
      | nil =>
        cases is
        exact .inr ⟨rfl, rfl, _, rfl, stops⟩
      | cons first middle => simp at is

/-- After a round that does not stop the worker comes to the next one. -/
theorem keepsOn {before after : List Round} {round : Round}
    (split : rounds = before ++ round :: after)
    (curable : ∀ e, round.result = .error e → ¬ e.Fatal ∧ e ≠ .cancelled)
    (awake : ∀ span, round.pause? ≠ some (span, true)) :
    after ≠ [] ∨ seen = true ∨ result = none := by
  cases h with
  | exhausted goes all => exact .inr (.inr rfl)
  | seen goes => exact .inr (.inl rfl)
  | @stopped rounds last outcome goes stops =>
    refine .inl fun none => ?_
    subst none
    obtain ⟨-, same⟩ := List.append_inj' split rfl
    cases same
    cases stops with
    | broken fatal => exact (curable _ rfl).1 fatal
    | cancelled => exact (curable _ rfl).2 rfl
    | woken pauses => exact awake _ rfl

end Settled

end Worker
end MessageBus
