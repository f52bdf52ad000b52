import MessageBus.Routine

/-! What a consumer counts. -/
namespace MessageBus

/-- What the polls of a worker came to. The counts are exact: counters of 64 bits hold them modulo
`2 ^ 64`. What happens there is left out, since nothing that a worker does depends on its counts. -/
structure WorkerStats where
  polls : Nat
  emptyPolls : Nat
  claimsLost : Nat
  processed : Nat
  completed : Nat
  failed : Nat
  suspended : Nat
  deferred : Nat
  commitsLost : Nat
  deriving DecidableEq, Repr

namespace WorkerStats

def zero : WorkerStats := ⟨0, 0, 0, 0, 0, 0, 0, 0, 0⟩

/-- The counts with the names under which they are reported. -/
def counts (s : WorkerStats) : List (String × Nat) :=
  [("polls", s.polls), ("empty_polls", s.emptyPolls), ("claims_lost", s.claimsLost),
    ("processed", s.processed), ("completed", s.completed), ("failed", s.failed),
    ("suspended", s.suspended), ("deferred", s.deferred), ("commits_lost", s.commitsLost)]

/-- Counts a result that was committed. -/
def committed (s : WorkerStats) : TicketState → WorkerStats
  | .completed => { s with completed := s.completed + 1 }
  | .failed => { s with failed := s.failed + 1 }
  | .suspended => { s with suspended := s.suspended + 1 }
  | .delayed => { s with deferred := s.deferred + 1 }
  | .ready | .inProgress => s

def tally (s : WorkerStats) (outcome : PollOutcome) : WorkerStats :=
  let s := { s with polls := s.polls + 1 }
  match outcome with
  | .empty => { s with emptyPolls := s.emptyPolls + 1 }
  | .lost _ => { s with claimsLost := s.claimsLost + 1 }
  | .processed _ state committed =>
    let s := { s with processed := s.processed + 1 }
    if committed then s.committed state else { s with commitsLost := s.commitsLost + 1 }

/-- Polls are of three kinds. -/
theorem polls_tally (s : WorkerStats) (outcome : PollOutcome)
    (h : s.polls = s.emptyPolls + s.claimsLost + s.processed) :
    (s.tally outcome).polls = (s.tally outcome).emptyPolls + (s.tally outcome).claimsLost +
      (s.tally outcome).processed := by
  cases outcome with
  | empty => simp only [tally]; omega
  | lost _ => simp only [tally]; omega
  | processed _ state committed =>
    cases committed <;> cases state <;> simp [tally, WorkerStats.committed] <;> omega

end WorkerStats
end MessageBus
