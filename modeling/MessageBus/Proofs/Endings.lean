import MessageBus.Proofs.Conservation
import MessageBus.Proofs.Finality

/-! How many tickets have come to their end. A commit that goes through brings one ticket to its state,
and no other call brings a ticket to a terminal state or takes it back from there; so the tickets in
such a state are as many as the commits that led to it. -/
namespace MessageBus

namespace Table
variable {κ α : Type} [DecidableEq κ] {key : κ} {b : α}

theorem replaceIn_of_absent {rows : List (κ × α)} (absent : key ∉ rows.map Prod.fst) (a : α) :
    replaceIn key a rows = rows := by
  refine (List.map_congr_left ?_).trans (List.map_id rows)
  rintro ⟨k, v⟩ mem
  have other : k ≠ key := fun same => absent (same ▸ List.mem_map_of_mem mem)
  simp [other]

theorem countP_replaceIn (p : α → Bool) {rows : List (κ × α)} (distinct : (rows.map Prod.fst).Nodup)
    (mem : (key, b) ∈ rows) (a : α) :
    ((replaceIn key a rows).map Prod.snd).countP p + (if p b then 1 else 0) =
      (rows.map Prod.snd).countP p + (if p a then 1 else 0) := by
  induction rows with
  | nil => cases mem
  | cons row rows ih =>
    rw [List.map_cons, List.nodup_cons] at distinct
    obtain ⟨k, v⟩ := row
    have first : replaceIn key a ((k, v) :: rows) =
        (if k = key then (k, a) else (k, v)) :: replaceIn key a rows := rfl
    rcases List.mem_cons.1 mem with same | mem
    · cases same
      rw [first, if_pos rfl, replaceIn_of_absent distinct.1]
      simp only [List.map_cons, List.countP_cons]
      omega
    · have known : key ∈ rows.map Prod.fst := List.mem_map_of_mem mem
      have other : k ≠ key := fun same => distinct.1 (same ▸ known)
      have rest := ih distinct.2 mem
      rw [first, if_neg other]
      simp only [List.map_cons, List.countP_cons]
      omega

theorem countP_values_insert (p : α → Bool) {t : Table κ α} (stored : t.get? key = some b) (a : α) :
    (t.insert key a).values.countP p + (if p b then 1 else 0) =
      t.values.countP p + (if p a then 1 else 0) := by
  have mem : (key, b) ∈ t.rows := (mem_rows_iff t key b).2 stored
  have there : key ∈ t.rows.map Prod.fst := List.mem_map_of_mem mem
  have inserted : (t.insert key a).rows = replaceIn key a t.rows := by rw [insert, dif_pos there]
  rw [values, inserted]
  exact countP_replaceIn p t.nodup mem a

end Table

namespace Store

/-- How many tickets are in a state. -/
def inState (s : Store) (state : TicketState) : Nat :=
  s.tickets.values.countP fun row => row.state == state

/-- The state that a commit brings its ticket to, if it goes through. -/
def Call.written : (call : Call) → Except StoreError call.Answer → List TicketState
  | .commit _ _ _ update _, .ok (.committed _) => [update.state]
  | _, _ => []

def Step.written (step : Step) (s : Store) : List TicketState := step.call.written (step.answer s)

/-- The states that the commits of a run bring their tickets to. -/
def written (s : Store) : List Step → List TicketState
  | [] => []
  | step :: rest => step.written s ++ (s.after step).written rest

theorem written_append (s : Store) (xs ys : List Step) :
    s.written (xs ++ ys) = s.written xs ++ (s.run xs).written ys := by
  induction xs generalizing s with
  | nil => rfl
  | cons step xs ih => simp [written, ih]

theorem Call.written_of_quiet {call : Call} (quiet : call.isCommit = false)
    (answer : Except StoreError call.Answer) : call.written answer = [] := by
  cases call with
  | commit => cases quiet
  | _ => rfl

theorem inState_insert {s : Store} {id : TicketId} {row : Ticket} (state : TicketState)
    (stored : s.tickets.get? id = some row) (later : Ticket) :
    { s with tickets := s.tickets.insert id later }.inState state +
        (if row.state = state then 1 else 0) =
      s.inState state + (if later.state = state then 1 else 0) := by
  simpa [inState] using Table.countP_values_insert (fun row => row.state == state) stored later

theorem inState_published {s : Store} {fresh : Fresh} {message : Message}
    {targets : List QueueRef} {state : TicketState} (done : state.isTerminal = true)
    (distinct : ((freshTickets fresh message.id targets).map Ticket.id).Nodup)
    (new : ∀ t ∈ freshTickets fresh message.id targets, s.tickets.get? t.id = none) :
    (s.published fresh message targets).inState state = s.inState state := by
  have ready : (freshTickets fresh message.id targets).countP (fun row => row.state == state) = 0 := by
    refine List.countP_eq_zero.2 fun t mem same => ?_
    obtain ⟨_, _, _, _, rfl⟩ := mem_freshTickets mem
    rw [← eq_of_beq same] at done
    cases done
  rw [inState, published, values_foldl_insert distinct new, List.countP_append, ready]
  rfl

section
variable {s : Store} {state : TicketState}

theorem inState_of_kept {step : Step} (same : (s.after step).tickets = s.tickets)
    (none : step.written s = []) :
    (s.after step).inState state = s.inState state + (step.written s).count state := by
  rw [none, inState, same]
  rfl

/-- A row that is written anew has not come to its end before. -/
theorem inState_of_moved {step : Step} {id : TicketId} {row later : Ticket}
    (done : state.isTerminal = true) (stored : s.tickets.get? id = some row)
    (live : row.state.isTerminal = false)
    (becomes : s.after step = { s with tickets := s.tickets.insert id later }) :
    (s.after step).inState state =
      s.inState state + (if later.state = state then 1 else 0) := by
  have other : row.state ≠ state := by
    rintro rfl
    rw [live] at done
    cases done
  rw [becomes, ← inState_insert state stored later, if_neg other]
  rfl

theorem inState_of_working {step : Step} {id : TicketId} {row later : Ticket}
    (done : state.isTerminal = true) (stored : s.tickets.get? id = some row)
    (live : row.state.isTerminal = false)
    (becomes : s.after step = { s with tickets := s.tickets.insert id later })
    (working : later.state = .inProgress) (none : step.written s = []) :
    (s.after step).inState state = s.inState state + (step.written s).count state := by
  have other : later.state ≠ state := by
    rintro rfl
    rw [working] at done
    cases done
  rw [inState_of_moved done stored live becomes, if_neg other, none]
  rfl

/-- A commit that goes through brings one ticket to its state. -/
theorem inState_commit {fresh : Fresh} {consumer : Consumer} {ticket : TicketId}
    {token : ConcurrencyToken} {update : TicketUpdate} {now : Instant}
    (done : state.isTerminal = true)
    (inTime : ∀ row, TicketState.inProgress.canMoveTo update.state = true →
      s.tickets.get? ticket = some row → row.isHeldBy consumer token = true →
      row.state = .inProgress) :
    (s.after ⟨fresh, .commit consumer ticket token update now⟩).inState state = s.inState state +
      (Step.written ⟨fresh, .commit consumer ticket token update now⟩ s).count state := by
  have answered {answer : Except StoreError CommitOutcome} {later : Store}
      (is : s.commit fresh consumer ticket token update now = (answer, later)) :
      Step.written ⟨fresh, .commit consumer ticket token update now⟩ s =
        Call.written (.commit consumer ticket token update now) answer := by
    have same : Step.answer ⟨fresh, .commit consumer ticket token update now⟩ s = answer :=
      congrArg Prod.fst is
    rw [Step.written, same]
  rcases commit_cases s fresh consumer ticket token update now with
    ⟨row, valid, stored, held⟩ | ⟨e, refused⟩ | lost
  · have goes : s.commit fresh consumer ticket token update now = _ :=
      commit_of_held valid stored held fresh
    have becomes : s.after ⟨fresh, .commit consumer ticket token update now⟩ = _ :=
      congrArg Prod.snd goes
    have live : row.state.isTerminal = false := by
      rw [inTime row valid stored held]
      rfl
    have counted : [update.state].count state = if update.state = state then 1 else 0 := by
      simp [List.count_singleton]
    rw [inState_of_moved done stored live becomes, answered goes]
    exact congrArg (s.inState state + ·) counted.symm
  · exact inState_of_kept (congrArg (·.2.tickets) refused) (answered refused)
  · exact inState_of_kept (congrArg (·.2.tickets) lost) (answered lost)

end

/-- No other call than a commit brings a ticket to its end, and none takes it back from there. -/
theorem inState_after {steps : List Step} {step : Step} (proper : ProperRun (steps ++ [step]))
    {state : TicketState} (done : state.isTerminal = true) :
    (run .empty (steps ++ [step])).inState state =
      (run .empty steps).inState state + (step.written (run .empty steps)).count state := by
  have issued := issued_anew proper.ids
  have whole := run_concat .empty steps step
  rw [whole]
  obtain ⟨fresh, call⟩ := step
  cases call with
  | publish message targets =>
    rcases publish_cases (run .empty steps) fresh message targets with publishable | ⟨e, refused⟩
    · have becomes : (run .empty steps).after ⟨fresh, .publish message targets⟩ =
          (run .empty steps).published fresh message targets :=
        congrArg Prod.snd (publish_of_publishable publishable fresh)
      rw [issuedTickets_publish publishable] at issued
      rw [becomes, inState_published done issued.1 fun t mem =>
        issued.2 t.id (List.mem_map_of_mem mem)]
      rfl
    · exact inState_of_kept (congrArg (·.2.tickets) refused) rfl
  | tryClaim candidate consumer timeout now =>
    rcases tryClaim_cases (run .empty steps) fresh candidate consumer timeout now with
      ⟨row, queue, stored, accepted⟩ | refused | lost
    · obtain ⟨live, -, -⟩ := acceptsClaim_eq_true_iff.1 accepted
      exact inState_of_working done stored live
        (congrArg Prod.snd (tryClaim_of_accepted queue stored accepted fresh)) rfl rfl
    · exact inState_of_kept (congrArg (·.2.tickets) refused) rfl
    · exact inState_of_kept (congrArg (·.2.tickets) lost) rfl
  | commit consumer ticket token update now =>
    refine inState_commit done fun row valid stored held => ?_
    obtain ⟨rfl, -, -⟩ := givenOut_run steps ticket row stored
    refine Decidable.byContradiction fun late => ?_
    exact proper.not_late stored token _ (.intro valid held late)
  | heartbeat consumer ticket token now =>
    rcases heartbeat_cases (run .empty steps) consumer ticket token now with
      ⟨row, stored, held, working⟩ | lost
    · have live : row.state.isTerminal = false := by
        rw [working]
        rfl
      exact inState_of_working done stored live
        (congrArg Prod.snd (heartbeat_of_held stored held working)) working rfl
    · exact inState_of_kept (congrArg (·.2.tickets) lost) rfl
  | _ => exact inState_of_kept (perform_sameDeliveries rfl _ fresh).tickets rfl

/-- The tickets that are done are those whose commits were made in the run. -/
theorem inState_run {steps : List Step} (proper : ProperRun steps) {state : TicketState}
    (done : state.isTerminal = true) :
    (run .empty steps).inState state = (written .empty steps).count state := by
  induction steps using concat_induction with
  | new => rfl
  | next steps step ih =>
    rw [inState_after proper done, ih proper.of_append, written_append, List.count_append]
    simp [written]

end Store

end MessageBus
