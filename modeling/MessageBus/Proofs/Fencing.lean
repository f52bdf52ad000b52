import MessageBus.Proofs.TicketStep

/-! Tokens fence off whoever lost a ticket. Each claim and each commit of a ticket gives it a new
token, and from the first claim on the ticket is owned, so that its token is always compared. A
token that a ticket no longer carries therefore never opens it again. -/
namespace MessageBus.Store

/-- The ticket is owned, and under another token. -/
def Spent (s : Store) (id : TicketId) (token : ConcurrencyToken) : Prop :=
  ∃ row, s.tickets.get? id = some row ∧ row.owner ≠ none ∧ row.token ≠ token

/-- A new token spends every one that is not drawn with it. -/
theorem spent_of_drawn {s : Store} {id : TicketId} {row : Ticket} {drawn : List ConcurrencyToken}
    {token : ConcurrencyToken} (stored : s.tickets.get? id = some row) (owned : row.owner ≠ none)
    (mem : row.token ∈ drawn) (unseen : token ∉ drawn) : Spent s id token := by
  refine ⟨row, stored, owned, ?_⟩
  rintro rfl
  exact unseen mem

theorem Spent.after {s : Store} {id : TicketId} {token : ConcurrencyToken} {step : Step}
    (h : Spent s id token) (once : id ∉ step.issuedTickets s)
    (fenced : token ∉ step.issuedTokens s) : Spent (s.after step) id token := by
  obtain ⟨row, stored, owned, other⟩ := h
  cases ticketStep s id step with
  | kept same => exact ⟨row, same.trans stored, owned, other⟩
  | published issued => exact absurd issued once
  | claimed _ _ _ _ drawn becomes =>
    exact spent_of_drawn becomes (Option.some_ne_none _) drawn fenced
  | committed _ _ held drawn becomes =>
    have owned := owned_of_isHeldBy held
    exact spent_of_drawn becomes owned drawn fenced
  | alive found _ _ becomes =>
    cases stored.symm.trans found
    exact ⟨_, becomes, owned, other⟩

theorem Spent.run {s : Store} {id : TicketId} {token : ConcurrencyToken} {steps : List Step}
    (h : Spent s id token) (once : id ∉ s.issuedTickets steps)
    (fenced : token ∉ s.issuedTokens steps) : Spent (s.run steps) id token := by
  induction steps generalizing s with
  | nil => exact h
  | cons step steps ih =>
    rw [issuedTickets, List.mem_append, not_or] at once
    rw [issuedTokens, List.mem_append, not_or] at fenced
    exact ih (h.after once.1 fenced.1) once.2 fenced.2

/-- A ticket whose token has changed was claimed since. -/
theorem spent_of_token_ne {s : Store} {id : TicketId} {row later : Ticket} {steps : List Step}
    (stored : s.tickets.get? id = some row) (once : id ∉ s.issuedTickets steps)
    (found : (s.run steps).tickets.get? id = some later) (moved : later.token ≠ row.token) :
    Spent (s.run steps) id row.token := by
  obtain ⟨last, there, follows⟩ := follows_run stored once
  cases found.symm.trans there
  refine ⟨later, found, ?_, moved⟩
  intro free
  rw [follows.unowned free] at moved
  exact moved rfl

/-! What a spent token still does: nothing. -/

/-- Whoever shows the token for the ticket gets nothing and changes nothing. -/
structure Fenced (s : Store) (id : TicketId) (token : ConcurrencyToken) : Prop where
  commit : ∀ fresh consumer update now, TicketState.inProgress.canMoveTo update.state = true →
    s.commit fresh consumer id token update now = (.ok .lost, s)
  heartbeat : ∀ consumer now, s.heartbeat consumer id token now = (.ok .lost, s)
  claim : ∀ fresh (candidate : Ticket) consumer timeout now,
    candidate.id = id → candidate.token = token →
      s.tryClaim fresh candidate consumer timeout now =
        if candidate.queue = consumer.queue then (.ok (.lost id), s)
        else (.error (wrongQueue candidate consumer), s)

theorem Spent.heldTicket? {s : Store} {id : TicketId} {token : ConcurrencyToken}
    (h : Spent s id token) (consumer : Consumer) : s.heldTicket? consumer id token = none := by
  obtain ⟨row, stored, -, other⟩ := h
  refine heldTicket?_eq_none_of_stored stored ?_
  cases held : row.isHeldBy consumer token with
  | false => rfl
  | true => exact absurd (token_of_isHeldBy held) other

theorem acceptsClaim_eq_false {row : Ticket} {token : ConcurrencyToken} (owned : row.owner ≠ none)
    (other : row.token ≠ token) (timeout : Duration) (now : Instant) :
    row.acceptsClaim token timeout now = false := by
  cases accepted : row.acceptsClaim token timeout now with
  | false => rfl
  | true =>
    obtain ⟨-, free | same, -⟩ := acceptsClaim_eq_true_iff.1 accepted
    · exact absurd free owned
    · exact absurd same other

theorem Spent.fenced {s : Store} {id : TicketId} {token : ConcurrencyToken}
    (h : Spent s id token) : Fenced s id token where
  commit fresh consumer update now valid := commit_of_lost valid (h.heldTicket? consumer) fresh
  heartbeat consumer now := heartbeat_of_lost (h.heldTicket? consumer)
  claim fresh candidate consumer timeout now is shown := by
    obtain ⟨row, stored, owned, other⟩ := h
    subst is shown
    split
    · next queue =>
      exact tryClaim_of_refused queue stored (acceptsClaim_eq_false owned other timeout now) fresh
    · next queue => exact tryClaim_of_wrongQueue queue fresh

/-! What a token does at most once. -/

/-- The ticket and the token of a claim or commit that went through. -/
def Call.exercised : (call : Call) → Except StoreError call.Answer →
    Option (TicketId × ConcurrencyToken)
  | .tryClaim candidate .., .ok (.claimed _) => some (candidate.id, candidate.token)
  | .commit _ ticket token .., .ok (.committed _) => some (ticket, token)
  | _, _ => none

/-- A step by which the token opens the ticket. -/
def exercises (id : TicketId) (token : ConcurrencyToken) (s : Store) (step : Step) : Bool :=
  step.call.exercised (step.answer s) == some (id, token)

def Call.candidate? : Call → Option Ticket
  | .tryClaim candidate .. => some candidate
  | _ => none

/-- A step by which the candidate is claimed. -/
def wins (candidate : Ticket) (s : Store) (step : Step) : Bool :=
  step.call.candidate? == some candidate && exercises candidate.id candidate.token s step

theorem exercises_cases {s : Store} {id : TicketId} {token : ConcurrencyToken} {step : Step}
    (h : exercises id token s step = true) :
    (∃ fresh candidate consumer timeout now delivery,
      step = ⟨fresh, .tryClaim candidate consumer timeout now⟩ ∧
      candidate.id = id ∧ candidate.token = token ∧
      (s.tryClaim fresh candidate consumer timeout now).1 = .ok (.claimed delivery)) ∨
    (∃ fresh consumer update now next, step = ⟨fresh, .commit consumer id token update now⟩ ∧
      (s.commit fresh consumer id token update now).1 = .ok (.committed next)) := by
  obtain ⟨fresh, call⟩ := step
  simp only [exercises, beq_iff_eq] at h
  cases call with
  | tryClaim candidate consumer timeout now =>
    cases answered : Step.answer ⟨fresh, .tryClaim candidate consumer timeout now⟩ s with
    | error e => rw [answered] at h; cases h
    | ok outcome =>
      rw [answered] at h
      cases outcome with
      | empty | lost => cases h
      | claimed delivery =>
        cases h
        exact .inl ⟨fresh, candidate, consumer, timeout, now, delivery, rfl, rfl, rfl, answered⟩
  | commit consumer ticket shown update now =>
    cases answered : Step.answer ⟨fresh, .commit consumer ticket shown update now⟩ s with
    | error e => rw [answered] at h; cases h
    | ok outcome =>
      rw [answered] at h
      cases outcome with
      | lost => cases h
      | committed next =>
        cases h
        exact .inr ⟨fresh, consumer, update, now, next, rfl, answered⟩
  | _ => cases h

theorem presented_of_exercises {s : Store} {id : TicketId} {token : ConcurrencyToken} {step : Step}
    (h : exercises id token s step = true) : token ∈ step.call.presented := by
  rcases exercises_cases h with
    ⟨fresh, candidate, consumer, timeout, now, delivery, rfl, -, rfl, -⟩ |
    ⟨fresh, consumer, update, now, next, rfl, -⟩
  · exact List.mem_singleton_self _
  · exact List.mem_singleton_self _

/-- A step that opens a ticket spends every token but the one that it draws. -/
theorem spent_of_exercises {s : Store} {id : TicketId} {token old : ConcurrencyToken} {step : Step}
    (h : exercises id token s step = true) (unseen : old ∉ step.issuedTokens s) :
    (∃ row, s.tickets.get? id = some row) ∧ Spent (s.after step) id old := by
  rcases exercises_cases h with
    ⟨fresh, candidate, consumer, timeout, now, delivery, rfl, rfl, rfl, answered⟩ |
    ⟨fresh, consumer, update, now, next, rfl, answered⟩
  · obtain ⟨row, -, stored, -, -, taken, drawn, becomes⟩ := claimed_step answered
    rw [taken] at becomes
    exact ⟨⟨row, stored⟩, spent_of_drawn becomes (Option.some_ne_none _) drawn unseen⟩
  · obtain ⟨row, -, stored, held, -, drawn, becomes⟩ := committed_step answered
    have owned := owned_of_isHeldBy held
    exact ⟨⟨row, stored⟩, spent_of_drawn becomes owned drawn unseen⟩

theorem Spent.not_exercises {s : Store} {id : TicketId} {token : ConcurrencyToken}
    (h : Spent s id token) (step : Step) : exercises id token s step = false := by
  obtain ⟨row, stored, owned, other⟩ := h
  cases opens : exercises id token s step with
  | false => rfl
  | true =>
    rcases exercises_cases opens with
      ⟨fresh, candidate, consumer, timeout, now, delivery, rfl, rfl, rfl, answered⟩ |
      ⟨fresh, consumer, update, now, next, rfl, answered⟩
    · obtain ⟨_, -, found, accepted, -⟩ := claimed_step answered
      cases stored.symm.trans found
      rw [acceptsClaim_eq_false owned other] at accepted
      cases accepted
    · obtain ⟨_, -, found, held, -⟩ := committed_step answered
      cases stored.symm.trans found
      exact absurd (token_of_isHeldBy held) other

/-- In a run that gives out no ticket identifier twice, a stored ticket is not published again. -/
theorem not_mem_issuedTickets {steps later : List Step}
    (ids : (issuedTickets .empty (steps ++ later)).Nodup) {id : TicketId} {row : Ticket}
    (stored : (run .empty steps).tickets.get? id = some row) :
    id ∉ (run .empty steps).issuedTickets later := by
  obtain ⟨-, known, -⟩ := givenOut_run steps id row stored
  rw [issuedTickets_append] at ids
  exact not_mem_of_nodup_append ids known

/-- Nor is the token of a stored ticket drawn again, where none is drawn twice. -/
theorem not_mem_issuedTokens {steps later : List Step}
    (tokens : (issuedTokens .empty (steps ++ later)).Nodup) {id : TicketId} {row : Ticket}
    (stored : (run .empty steps).tickets.get? id = some row) :
    row.token ∉ (run .empty steps).issuedTokens later := by
  obtain ⟨-, -, drawn⟩ := givenOut_run steps id row stored
  rw [issuedTokens_append] at tokens
  exact not_mem_of_nodup_append tokens drawn

/-- Where neither identifiers of tickets nor tokens come twice, and no token was shown before it was
given out, each token opens a ticket at most once. -/
theorem exercises_at_most_once {steps : List Step} (ids : (issuedTickets .empty steps).Nodup)
    (unseen : TokensUnseen .empty [] steps) (id : TicketId) (token : ConcurrencyToken) :
    countAlong (exercises id token) .empty steps ≤ 1 := by
  refine countAlong_le_one ?_
  rintro before step later rfl opens
  obtain ⟨now, afterwards⟩ := unseen.of_presented (presented_of_exercises opens)
  obtain ⟨⟨row, stored⟩, spent⟩ := spent_of_exercises opens now
  have once := not_mem_issuedTickets ids stored
  rw [issuedTickets, List.mem_append, not_or] at once
  refine countAlong_eq_zero ?_
  rintro between next rest rfl
  rw [issuedTickets_append, List.mem_append, not_or] at once
  rw [issuedTokens_append, List.mem_append, not_or] at afterwards
  exact (spent.run once.2.1 afterwards.1).not_exercises next

/-- The token that a ticket carries. -/
def token? (s : Store) (id : TicketId) : Option ConcurrencyToken :=
  (s.tickets.get? id).map Ticket.token

/-- A token that a ticket carried once and carries no more is fenced off for good. -/
theorem fenced_of_rotated {before middle later : List Step}
    (ids : (issuedTickets .empty (before ++ middle ++ later)).Nodup)
    (tokens : (issuedTokens .empty (before ++ middle ++ later)).Nodup)
    {id : TicketId} {token : ConcurrencyToken}
    (carried : (run .empty before).token? id = some token)
    (rotated : (run .empty (before ++ middle)).token? id ≠ some token) :
    Fenced (run .empty (before ++ middle ++ later)) id token := by
  obtain ⟨row, stored, rfl⟩ := Option.map_eq_some_iff.1 carried
  rw [List.append_assoc] at ids tokens
  have once := not_mem_issuedTickets ids stored
  rw [issuedTickets_append, List.mem_append, not_or] at once
  obtain ⟨last, found, -⟩ := follows_run stored once.1
  have unseen := not_mem_issuedTokens tokens stored
  rw [issuedTokens_append, List.mem_append, not_or] at unseen
  have spent : Spent ((run .empty before).run middle) id row.token := by
    refine spent_of_token_ne stored once.1 found ?_
    intro same
    rw [run_append, token?, found] at rotated
    exact rotated (congrArg some same)
  rw [List.append_assoc, run_append, run_append]
  exact (spent.run once.2 unseen.2).fenced

/-- Tokens fence: one that a ticket has given up is fenced off, and each one opens a ticket at most
once, so that of all claims of one candidate at most one goes through. -/
theorem tokens_fence {steps : List Step} (ids : (issuedTickets .empty steps).Nodup)
    (unseen : TokensUnseen .empty [] steps) (id : TicketId) (token : ConcurrencyToken) :
    (∀ before middle later, steps = before ++ middle ++ later →
      (run .empty before).token? id = some token →
      (run .empty (before ++ middle)).token? id ≠ some token →
      Fenced (run .empty steps) id token) ∧
    countAlong (exercises id token) .empty steps ≤ 1 ∧
    ∀ candidate, countAlong (wins candidate) .empty steps ≤ 1 := by
  refine ⟨?_, exercises_at_most_once ids unseen id token, ?_⟩
  · rintro before middle later rfl carried rotated
    exact fenced_of_rotated ids unseen.nodup carried rotated
  · intro candidate
    refine Nat.le_trans (countAlong_mono ?_ _ _)
      (exercises_at_most_once ids unseen candidate.id candidate.token)
    intro s step won
    rw [wins, Bool.and_eq_true] at won
    exact won.2

/-- Two claims of one candidate, of which the second comes too late. -/
def twoClaims : List Step := oneTicket ++ [firstClaim] ++
  [⟨freshFrom 3000, .tryClaim ticketAtFirst otherRunner (.ofSecs 30) default⟩]

theorem tokens_fence_twoClaims :
    (issuedTickets .empty twoClaims).Nodup ∧ TokensUnseen .empty [] twoClaims ∧
    (run .empty oneTicket).token? ticketAtFirst.id = some ticketAtFirst.token ∧
    (run .empty (oneTicket ++ [firstClaim])).token? ticketAtFirst.id ≠ some ticketAtFirst.token ∧
    Fenced (run .empty twoClaims) ticketAtFirst.id ticketAtFirst.token ∧
    wins ticketAtFirst (run .empty oneTicket) firstClaim = true ∧
    countAlong (wins ticketAtFirst) .empty twoClaims ≤ 1 := by
  have ids : (issuedTickets .empty twoClaims).Nodup := by decide +kernel
  have unseen : TokensUnseen .empty [] twoClaims := by decide +kernel
  have carried : (run .empty oneTicket).token? ticketAtFirst.id = some ticketAtFirst.token := by
    decide +kernel
  have rotated : (run .empty (oneTicket ++ [firstClaim])).token? ticketAtFirst.id ≠
      some ticketAtFirst.token := by decide +kernel
  obtain ⟨fenced, -, once⟩ := tokens_fence ids unseen ticketAtFirst.id ticketAtFirst.token
  exact ⟨ids, unseen, carried, rotated, fenced oneTicket [firstClaim] _ rfl carried rotated,
    by decide +kernel, once ticketAtFirst⟩

end MessageBus.Store
