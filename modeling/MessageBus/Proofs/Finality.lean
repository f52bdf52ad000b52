import MessageBus.Proofs.Fencing
import MessageBus.Proofs.Transitions

/-! Tickets that are done stay done, in runs whose commits are made under claims. The token of a
ticket that is not in progress was handed out by a commit, and no token is handed out twice. -/
namespace MessageBus.Store

/-- After these steps of the run a claim is made, at `now`, that hands out the delivery. -/
def ClaimedAfter (steps before : List Step) (now : Instant) (delivery : Delivery) : Prop :=
  ∃ fresh candidate consumer timeout later,
    steps = before ++ ⟨fresh, .tryClaim candidate consumer timeout now⟩ :: later ∧
    ((run .empty before).tryClaim fresh candidate consumer timeout now).1 = .ok (.claimed delivery)

/-- A claim of the run handed out this token. -/
def HandedByClaim (steps : List Step) (token : ConcurrencyToken) : Prop :=
  ∃ before now delivery, ClaimedAfter steps before now delivery ∧ delivery.ticket.token = token

/-- Every commit of a run shows a token that a claim before it handed out. -/
def CommitsUnderClaims (steps : List Step) : Prop :=
  ∀ before fresh consumer ticket token update now later,
    steps = before ++ ⟨fresh, .commit consumer ticket token update now⟩ :: later →
    HandedByClaim before token

theorem ClaimedAfter.append {steps before : List Step} {now : Instant} {delivery : Delivery}
    (h : ClaimedAfter steps before now delivery) (more : List Step) :
    ClaimedAfter (steps ++ more) before now delivery := by
  obtain ⟨fresh, candidate, consumer, timeout, later, rfl, answer⟩ := h
  exact ⟨fresh, candidate, consumer, timeout, later ++ more, by simp, answer⟩

theorem CommitsUnderClaims.of_append {steps more : List Step}
    (h : CommitsUnderClaims (steps ++ more)) : CommitsUnderClaims steps := by
  rintro before fresh consumer ticket token update now later rfl
  exact h before fresh consumer ticket token update now (later ++ more) (by simp)

/-- Where no token comes twice, what a step gives out is given out by no later step. -/
theorem not_mem_issuedTokens_later {xs ys zs : List Step} {x y : Step} {token : ConcurrencyToken}
    (tokens : (issuedTokens .empty (xs ++ x :: (ys ++ y :: zs))).Nodup)
    (first : token ∈ x.issuedTokens (run .empty xs)) :
    token ∉ y.issuedTokens (run .empty (xs ++ x :: ys)) := by
  intro second
  have whole : xs ++ x :: (ys ++ y :: zs) = (xs ++ [x]) ++ (ys ++ y :: zs) := by simp
  rw [whole, issuedTokens_append] at tokens
  refine not_mem_of_nodup_append tokens (a := token) ?_ ?_
  · rw [issuedTokens_append]
    exact List.mem_append_right _ (by simpa [issuedTokens] using first)
  · rw [issuedTokens_append]
    refine List.mem_append_right _ (List.mem_append_left _ ?_)
    rw [← run_append]
    simpa using second

/-- Where no token comes twice, it is given out at one place of the run. -/
theorem same_step_of_issuedTokens {before later before' later' : List Step} {step step' : Step}
    (tokens : (issuedTokens .empty (before ++ step :: later)).Nodup)
    (split : before ++ step :: later = before' ++ step' :: later') {token : ConcurrencyToken}
    (here : token ∈ step.issuedTokens (run .empty before))
    (there : token ∈ step'.issuedTokens (run .empty before')) : before = before' ∧ step = step' := by
  rcases split_append split with ⟨rest, rfl⟩ | ⟨middle, rfl, tail⟩
  · rw [List.append_assoc, List.cons_append] at tokens
    exact absurd here (not_mem_issuedTokens_later tokens there)
  · cases middle with
    | nil =>
      cases tail
      exact ⟨(List.append_nil before).symm, rfl⟩
    | cons x middle =>
      cases tail
      exact absurd there (not_mem_issuedTokens_later tokens here)

/-- The token of a delivery is drawn by its claim. -/
theorem token_mem_issuedTokens {s : Store} {fresh : Fresh} {candidate : Ticket}
    {consumer : Consumer} {timeout : Duration} {now : Instant} {delivery : Delivery}
    (answered : (s.tryClaim fresh candidate consumer timeout now).1 = .ok (.claimed delivery)) :
    delivery.ticket.token ∈
      Step.issuedTokens ⟨fresh, .tryClaim candidate consumer timeout now⟩ s := by
  obtain ⟨_, -, -, -, -, taken, drawn, -⟩ := claimed_step answered
  rw [taken]
  exact drawn

/-- Claims that hand out the same token are the same claim. -/
theorem ClaimedAfter.eq_of_token {steps before before' : List Step} {now now' : Instant}
    {delivery delivery' : Delivery} (h : ClaimedAfter steps before now delivery)
    (h' : ClaimedAfter steps before' now' delivery') (tokens : (issuedTokens .empty steps).Nodup)
    (same : delivery'.ticket.token = delivery.ticket.token) : before' = before ∧ now' = now := by
  obtain ⟨fresh, candidate, consumer, timeout, later, rfl, answered⟩ := h
  obtain ⟨fresh', candidate', consumer', timeout', later', split, answered'⟩ := h'
  have here := token_mem_issuedTokens answered
  have there := token_mem_issuedTokens answered'
  rw [same] at there
  obtain ⟨rfl, step⟩ := same_step_of_issuedTokens tokens split here there
  cases step
  exact ⟨rfl, rfl⟩

/-- A token that a commit handed out was not handed out by a claim. -/
theorem HandedByCommit.not_handedByClaim {steps : List Step} {id : TicketId}
    {token : ConcurrencyToken} (h : HandedByCommit steps id token)
    (tokens : (issuedTokens .empty steps).Nodup) : ¬ HandedByClaim steps token := by
  rintro ⟨_, _, _, ⟨fresh', candidate, consumer', timeout, later', split, claimed⟩, rfl⟩
  obtain ⟨before, fresh, consumer, shown, update, now, later, rfl, committed⟩ := h
  obtain ⟨_, -, -, -, -, here, -⟩ := committed_step committed
  obtain ⟨-, same⟩ :=
    same_step_of_issuedTokens tokens split here (token_mem_issuedTokens claimed)
  cases same

/-- A run in which nothing is given out twice and every commit is made under a claim. -/
structure ProperRun (steps : List Step) : Prop where
  ids : (issuedTickets .empty steps).Nodup
  tokens : (issuedTokens .empty steps).Nodup
  commits : CommitsUnderClaims steps

theorem ProperRun.of_append {steps more : List Step} (h : ProperRun (steps ++ more)) :
    ProperRun steps :=
  ⟨nodup_issuedTickets h.ids, nodup_issuedTokens h.tokens, h.commits.of_append⟩

/-- No commit of such a run is late. -/
theorem ProperRun.not_late {steps : List Step} {step : Step} (h : ProperRun (steps ++ [step]))
    {row : Ticket} (stored : (run .empty steps).tickets.get? row.id = some row)
    (token : ConcurrencyToken) (written : Ticket) : ¬ LateCommit row token step written := by
  intro late
  have byCommit := late.handedByCommit stored
  cases late with
  | intro => exact byCommit.not_handedByClaim h.of_append.tokens (h.commits _ _ _ _ _ _ _ [] rfl)

/-- What is done is done: the row of a ticket in a terminal state stays as it is. -/
theorem ProperRun.done_run {steps later : List Step} (h : ProperRun (steps ++ later))
    {id : TicketId} {row : Ticket} (stored : (run .empty steps).tickets.get? id = some row)
    (done : row.state.isTerminal = true) :
    (run .empty (steps ++ later)).tickets.get? id = some row := by
  induction later generalizing steps with
  | nil => rwa [List.append_nil]
  | cons step later ih =>
    have once := not_mem_issuedTickets h.ids stored
    rw [issuedTickets, List.mem_append, not_or] at once
    have split : steps ++ step :: later = (steps ++ [step]) ++ later := by simp
    rw [split] at h ⊢
    obtain ⟨rfl, -, -⟩ := givenOut_run steps id row stored
    obtain ⟨next, becomes, -, keeps⟩ := edge_of_not_late stored once.1 (h.of_append.not_late stored)
    cases keeps done
    refine ih h ?_
    rw [run_append]
    exact becomes

/-- A ticket that was never claimed is ready. -/
theorem ready_of_unowned (steps : List Step) {id : TicketId} {row : Ticket}
    (stored : (run .empty steps).tickets.get? id = some row) (free : row.owner = none) :
    row.state = .ready := by
  refine run_keeps (P := fun s => ∀ row, s.tickets.get? id = some row → row.owner = none →
    row.state = .ready) ?_ ?_ steps row stored free
  · intro s step ih row stored free
    cases ticketStep s id step with
    | kept same => exact ih row (same.symm.trans stored) free
    | published _ _ _ becomes =>
      cases stored.symm.trans becomes
      rfl
    | claimed _ _ _ _ _ becomes =>
      cases stored.symm.trans becomes
      cases free
    | committed _ _ held _ becomes =>
      cases stored.symm.trans becomes
      exact (owned_of_isHeldBy held free).elim
    | alive _ held _ becomes =>
      cases stored.symm.trans becomes
      exact (owned_of_isHeldBy held free).elim
  · intro row stored
    cases stored

end MessageBus.Store
