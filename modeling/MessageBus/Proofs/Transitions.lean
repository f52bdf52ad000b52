import MessageBus.Proofs.TicketStep

/-! The states of a ticket along a run. A claim, a sign of life and the commit of a ticket in
progress move it along the edges of its states. The commit of a ticket that is no longer in progress
need not: a first commit hands out the token that a second one is checked against. -/
namespace MessageBus.Store

/-- The commit of a ticket that is no longer in progress, by the instance that holds it under the
token, and the row that it writes. -/
inductive LateCommit (row : Ticket) (token : ConcurrencyToken) : Step → Ticket → Prop
  | intro {fresh consumer update now}
      (valid : TicketState.inProgress.canMoveTo update.state = true)
      (held : row.isHeldBy consumer token = true)
      (late : row.state ≠ .inProgress) :
      LateCommit row token ⟨fresh, .commit consumer row.id token update now⟩
        (row.updated update (fresh.token 0) now)

def Call.isCommit : Call → Bool
  | .commit .. => true
  | _ => false

/-- The ticket of a commit that went through. -/
def Call.committedTicket : (call : Call) → Except StoreError call.Answer → Option TicketId
  | .commit _ ticket .., .ok (.committed _) => some ticket
  | _, _ => none

/-- An earlier commit of the ticket in a run answered with this token. -/
def HandedByCommit (steps : List Step) (id : TicketId) (token : ConcurrencyToken) : Prop :=
  ∃ before fresh consumer shown update now later,
    steps = before ++ ⟨fresh, .commit consumer id shown update now⟩ :: later ∧
    ((run .empty before).commit fresh consumer id shown update now).1 = .ok (.committed token)

theorem HandedByCommit.append {steps : List Step} {id : TicketId} {token : ConcurrencyToken}
    (h : HandedByCommit steps id token) (more : List Step) :
    HandedByCommit (steps ++ more) id token := by
  obtain ⟨before, fresh, consumer, shown, update, now, later, rfl, answer⟩ := h
  exact ⟨before, fresh, consumer, shown, update, now, later ++ more, by simp, answer⟩

/-- A ticket that was claimed and is not in progress carries the token of its last commit. -/
theorem handedByCommit_of_idle (steps : List Step) :
    ∀ id row, (run .empty steps).tickets.get? id = some row →
      row.owner = none ∨ row.state = .inProgress ∨ HandedByCommit steps id row.token := by
  refine run_induction (P := fun steps s => ∀ id row, s.tickets.get? id = some row →
    row.owner = none ∨ row.state = .inProgress ∨ HandedByCommit steps id row.token) ?_ ?_ steps
  · intro id row stored
    cases stored
  · intro steps step ih id row stored
    cases ticketStep (run .empty steps) id step with
    | kept same =>
      rcases ih id row (same.symm.trans stored) with free | working | handed
      · exact .inl free
      · exact .inr (.inl working)
      · exact .inr (.inr (handed.append [step]))
    | published _ _ _ becomes =>
      cases stored.symm.trans becomes
      exact .inl rfl
    | claimed _ _ _ _ _ becomes =>
      cases stored.symm.trans becomes
      exact .inr (.inl rfl)
    | @committed fresh consumer token update now _ valid found held _ becomes =>
      cases stored.symm.trans becomes
      refine .inr (.inr ⟨steps, fresh, consumer, token, update, now, [], rfl, ?_⟩)
      exact congrArg Prod.fst (commit_of_held valid found held fresh)
    | alive _ _ working becomes =>
      cases stored.symm.trans becomes
      exact .inr (.inl working)

theorem LateCommit.handedByCommit {steps : List Step} {row written : Ticket}
    {token : ConcurrencyToken} {step : Step}
    (stored : (run .empty steps).tickets.get? row.id = some row)
    (h : LateCommit row token step written) : HandedByCommit steps row.id token := by
  cases h with
  | intro valid held late =>
    rcases handedByCommit_of_idle steps row.id row stored with free | working | handed
    · exact absurd free (owned_of_isHeldBy held)
    · exact absurd working late
    · rwa [token_of_isHeldBy held] at handed

/-- A late commit goes through and writes its row. -/
theorem LateCommit.goes {s : Store} {row written : Ticket} {token : ConcurrencyToken} {step : Step}
    (stored : s.tickets.get? row.id = some row) (h : LateCommit row token step written) :
    (s.after step).tickets.get? row.id = some written ∧
      step.call.committedTicket (step.answer s) = some row.id := by
  cases h with
  | @intro fresh consumer update now valid held late =>
    have done : s.commit fresh consumer row.id token update now = _ :=
      commit_of_held valid stored held fresh
    constructor
    · exact (congrArg (·.2.tickets.get? row.id) done).trans (Table.get?_insert_self _ _ _)
    · have answer : Step.answer ⟨fresh, .commit consumer row.id token update now⟩ s =
          .ok (.committed (fresh.token 0)) := congrArg Prod.fst done
      rw [answer]
      rfl

theorem commit_of_committedTicket {s : Store} {id : TicketId} {step : Step}
    (h : step.call.committedTicket (step.answer s) = some id) :
    ∃ fresh consumer token update now next,
      step = ⟨fresh, .commit consumer id token update now⟩ ∧
      Step.answer ⟨fresh, .commit consumer id token update now⟩ s = .ok (.committed next) := by
  obtain ⟨fresh, call⟩ := step
  cases call with
  | commit consumer ticket token update now =>
    cases answered : Step.answer ⟨fresh, .commit consumer ticket token update now⟩ s with
    | error e => rw [answered] at h; cases h
    | ok outcome =>
      rw [answered] at h
      cases outcome with
      | lost => cases h
      | committed next =>
        cases h
        exact ⟨fresh, consumer, token, update, now, next, rfl, answered⟩
  | _ => cases h

/-- Only the holder's commit goes through. If the ticket is not in progress, that is a late one. -/
theorem late_of_committedTicket {s : Store} {row : Ticket} {step : Step}
    (stored : s.tickets.get? row.id = some row)
    (h : step.call.committedTicket (step.answer s) = some row.id) (late : row.state ≠ .inProgress) :
    ∃ token written, LateCommit row token step written := by
  obtain ⟨fresh, consumer, token, update, now, next, rfl, answered⟩ := commit_of_committedTicket h
  obtain ⟨_, valid, found, held, -⟩ := committed_step answered
  cases stored.symm.trans found
  exact ⟨token, _, .intro valid held late⟩

theorem committed_late_iff {s : Store} {row : Ticket} (step : Step)
    (stored : s.tickets.get? row.id = some row) :
    step.call.committedTicket (step.answer s) = some row.id ∧ row.state ≠ .inProgress ↔
      ∃ token written, LateCommit row token step written := by
  constructor
  · rintro ⟨goes, late⟩
    exact late_of_committedTicket stored goes late
  · rintro ⟨token, written, h⟩
    refine ⟨(h.goes stored).2, ?_⟩
    cases h with
    | intro _ _ late => exact late

/-- Every other step keeps the state of a ticket or moves it along an edge, and keeps the whole row
of a ticket that is done. -/
theorem edge_of_not_late {s : Store} {row : Ticket} {step : Step}
    (stored : s.tickets.get? row.id = some row) (once : row.id ∉ step.issuedTickets s)
    (notLate : ∀ token written, ¬ LateCommit row token step written) :
    ∃ later, (s.after step).tickets.get? row.id = some later ∧
      (later.state = row.state ∨ row.state.canMoveTo later.state = true) ∧
      (row.state.isTerminal = true → later = row) := by
  generalize same : row.id = id at *
  cases ticketStep s id step with
  | kept unchanged => exact ⟨row, unchanged.trans stored, .inl rfl, fun _ => rfl⟩
  | published issued => exact absurd issued once
  | claimed _ _ found accepted _ becomes =>
    cases stored.symm.trans found
    obtain ⟨live, -, -⟩ := acceptsClaim_eq_true_iff.1 accepted
    refine ⟨_, becomes, .inr (TicketState.canMoveTo_inProgress_of_not_isTerminal live), ?_⟩
    intro done
    rw [live] at done
    cases done
  | committed valid found held _ becomes =>
    cases stored.symm.trans found
    subst same
    by_cases working : row.state = .inProgress
    · refine ⟨_, becomes, .inr ?_, ?_⟩
      · rw [working]
        exact valid
      · intro done
        rw [working] at done
        cases done
    · exact absurd (.intro valid held working) (notLate _ _)
  | alive found _ working becomes =>
    cases stored.symm.trans found
    refine ⟨_, becomes, .inl rfl, ?_⟩
    intro done
    rw [working] at done
    cases done

/-- The state of a ticket stays or moves along an edge, except where a late commit takes it off the
edges. Such a commit shows the token with which an earlier commit of the ticket was answered. -/
theorem ticket_moves_along_edge_iff {steps : List Step} {step : Step} {id : TicketId} {row : Ticket}
    (stored : (run .empty steps).tickets.get? id = some row)
    (once : id ∉ step.issuedTickets (run .empty steps)) :
    ∃ later, (run .empty (steps ++ [step])).tickets.get? id = some later ∧
      ((later.state = row.state ∨ row.state.canMoveTo later.state = true) ↔
        ¬ ∃ token written, LateCommit row token step written ∧
          written.state ≠ row.state ∧ row.state.canMoveTo written.state = false) ∧
      (step.call.committedTicket (step.answer (run .empty steps)) = some id ∧
          row.state ≠ .inProgress ↔
        ∃ token written, LateCommit row token step written) ∧
      (row.state.isTerminal = true →
        later = row ∨ ∃ token, LateCommit row token step later) ∧
      ∀ token written, LateCommit row token step written →
        later = written ∧ HandedByCommit steps id token := by
  obtain ⟨rfl, -, -⟩ := givenOut_run steps id row stored
  have committed := committed_late_iff step stored
  rw [run_append]
  by_cases someLate : ∃ token written, LateCommit row token step written
  · obtain ⟨token, written, late⟩ := someLate
    have becomes := (late.goes stored).1
    refine ⟨written, becomes, ?_, committed, fun _ => .inr ⟨token, late⟩, ?_⟩
    · constructor
      · rintro edge ⟨token', written', late', other, off⟩
        cases becomes.symm.trans (late'.goes stored).1
        rcases edge with same | edge
        · exact other same
        · rw [off] at edge
          cases edge
      · intro never
        by_cases same : written.state = row.state
        · exact .inl same
        cases edge : row.state.canMoveTo written.state with
        | true => exact .inr rfl
        | false => exact absurd ⟨token, written, late, same, edge⟩ never
    · intro token' written' late'
      exact ⟨Option.some.inj (becomes.symm.trans (late'.goes stored).1), late'.handedByCommit stored⟩
  · have notLate : ∀ token written, ¬ LateCommit row token step written :=
      fun token written late => someLate ⟨token, written, late⟩
    obtain ⟨later, becomes, edge, keeps⟩ := edge_of_not_late stored once notLate
    refine ⟨later, becomes, ?_, committed, fun done => .inl (keeps done), ?_⟩
    · exact iff_of_true edge fun ⟨token, written, late, _⟩ => notLate token written late
    · exact fun token written late => absurd late (notLate token written)

/-- A run in which the ticket is claimed and its delivery done. -/
def doneOnce : List Step := oneTicket ++ [firstClaim,
  ⟨freshFrom 3000, .commit runner ⟨.ofNat 1000⟩ ⟨.ofNat 2000⟩ ⟨.completed, 0, none, none⟩ default⟩]

def doneRow : Ticket :=
  (ticketAtFirst.claimedBy runner.instanceUuid ⟨.ofNat 2000⟩ default).updated
    ⟨.completed, 0, none, none⟩ ⟨.ofNat 3000⟩ default

/-- A second commit, under the token with which the first one was answered. -/
def failedAfterwards : Step :=
  ⟨freshFrom 4000, .commit runner ⟨.ofNat 1000⟩ ⟨.ofNat 3000⟩ ⟨.failed, 1, none, none⟩ default⟩

theorem ticket_moves_along_edge_iff_doneOnce :
    (run .empty doneOnce).tickets.get? ⟨.ofNat 1000⟩ = some doneRow ∧
    ⟨.ofNat 1000⟩ ∉ failedAfterwards.issuedTickets (run .empty doneOnce) ∧
    ∃ later, (run .empty (doneOnce ++ [failedAfterwards])).tickets.get? ⟨.ofNat 1000⟩ = some later ∧
      ((later.state = doneRow.state ∨ doneRow.state.canMoveTo later.state = true) ↔
        ¬ ∃ token written, LateCommit doneRow token failedAfterwards written ∧
          written.state ≠ doneRow.state ∧ doneRow.state.canMoveTo written.state = false) := by
  have stored : (run .empty doneOnce).tickets.get? ⟨.ofNat 1000⟩ = some doneRow := by
    decide +kernel
  have once : ⟨.ofNat 1000⟩ ∉ failedAfterwards.issuedTickets (run .empty doneOnce) := by
    decide +kernel
  obtain ⟨later, becomes, edge, -⟩ := ticket_moves_along_edge_iff stored once
  exact ⟨stored, once, later, becomes, edge⟩

/-- A ticket that is done fails: the second commit goes through. -/
theorem completed_ticket_fails :
    ((run .empty doneOnce).tickets.get? ⟨.ofNat 1000⟩).map Ticket.state = some .completed ∧
    failedAfterwards.call.committedTicket (failedAfterwards.answer (run .empty doneOnce)) =
      some ⟨.ofNat 1000⟩ ∧
    ((run .empty (doneOnce ++ [failedAfterwards])).tickets.get? ⟨.ofNat 1000⟩).map Ticket.state =
      some .failed ∧
    TicketState.completed.canMoveTo .failed = false := by
  decide +kernel

end MessageBus.Store
