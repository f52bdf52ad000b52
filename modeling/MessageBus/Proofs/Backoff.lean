import MessageBus.Proofs.Run
import MessageBus.Proofs.Spans

/-! How a failed ticket is held back. What is written to it names the end of its delay, and the ticket
is not handed out before. Past the end of time there is no such instant to name, and a ticket without
one is handed out at once. -/
namespace MessageBus

/-- A failed ticket for which the end of its delay is written is held back until then. -/
theorem Ticket.isClaimable_updated {row : Ticket} {update : TicketUpdate}
    (failed : update.state = .failed) {token : ConcurrencyToken} {written at_ : Instant}
    {eligible : List TicketState} {timeout : Duration} :
    (row.updated update token written).isClaimable eligible timeout at_ = true ↔
      .failed ∈ eligible ∧ ∀ due, update.delayedTo = some due → due < at_ := by
  have state : (row.updated update token written).state = .failed := failed
  have delayedTo : (row.updated update token written).delayedTo = update.delayedTo := rfl
  rw [Ticket.isClaimable, state, delayedTo, if_neg (by decide), Bool.and_eq_true,
    List.contains_iff_mem]
  refine and_congr_right fun _ => ?_
  cases update.delayedTo <;> simp

namespace TicketUpdate

/-- The ticket is held back until the instant that is a delay later, and in any case for now. -/
structure HoldsBack (update : TicketUpdate) (now : Instant) (delay : Duration) : Prop where
  due : ∃ u, update.delayedTo = some u ∧ now < u ∧ ∀ sum, now.later? delay = some sum → u = sum
  refused : ∀ (row : Ticket) token written eligible timeout,
    (row.updated update token written).isClaimable eligible timeout now = false

/-- Whenever a ticket may be handed out under the one update it may be so under the other one. -/
def NoEarlier (late early : TicketUpdate) : Prop :=
  ∀ (row : Ticket) token written eligible timeout now,
    (row.updated late token written).isClaimable eligible timeout now = true →
    (row.updated early token written).isClaimable eligible timeout now = true

section
variable {now : Instant} {delay longer : Duration}

theorem delayedUntil_of_isZero (zero : delay.isZero = true) : delayedUntil now delay = none := by
  rw [delayedUntil, if_pos zero]

theorem delayedUntil_of_le (past : now.timeLeft ≤ delay.nanos) : delayedUntil now delay = none := by
  have noSum : now.later? delay = none := by
    refine Option.eq_none_iff_forall_ne_some.2 fun u sum => ?_
    exact absurd (Instant.exists_later?_iff.1 ⟨u, sum⟩) (Int.not_lt.2 past)
  rw [delayedUntil, noSum, ite_self]

theorem delayedUntil_of_lt (waits : delay.isZero = false)
    (room : (delay.nanos : Int) < now.timeLeft) :
    ∃ u, delayedUntil now delay = some u ∧ now.later? delay = some u ∧ now < u := by
  obtain ⟨u, sum⟩ := Instant.exists_later?_iff.2 room
  have positive : 0 < delay.nanos := Nat.pos_of_ne_zero (by simpa [Duration.isZero] using waits)
  refine ⟨u, by simp [delayedUntil, waits, sum], sum, ?_⟩
  unfold Instant.later? at sum
  split at sum
  · exact Instant.lt_of_shift?_eq_some (Int.natCast_pos.2 positive) sum
  · cases sum

theorem waits_of_le (le : delay ≤ longer) (waits : delay.isZero = false) :
    longer.isZero = false := by
  have le : delay.nanos ≤ longer.nanos := le
  simp only [Duration.isZero, beq_eq_false_iff_ne, ne_eq] at *
  omega

theorem later?_le_later? {u v : Instant} (le : delay ≤ longer) (hu : now.later? delay = some u)
    (hv : now.later? longer = some v) : u ≤ v := by
  unfold Instant.later? at hu hv
  split at hu
  · split at hv
    · exact Instant.shift?_mono (Int.ofNat_le.2 le) hu hv
    · cases hv
  · cases hu

variable {update late : TicketUpdate}

theorem holdsBack_iff (failed : update.state = .failed)
    (delayedTo : update.delayedTo = delayedUntil now delay) (waits : delay.isZero = false) :
    update.HoldsBack now delay ↔ (delay.nanos : Int) < now.timeLeft := by
  constructor
  · rintro ⟨⟨u, due, -, -⟩, -⟩
    refine Int.not_le.1 fun past => ?_
    cases due.symm.trans (delayedTo.trans (delayedUntil_of_le past))
  · intro room
    obtain ⟨u, due, sum, after⟩ := delayedUntil_of_lt waits room
    rw [← delayedTo] at due
    refine ⟨⟨u, due, after, fun v sum' => Option.some.inj (sum.symm.trans sum')⟩, ?_⟩
    intro row token written eligible timeout
    rw [Bool.eq_false_iff, ne_eq, Ticket.isClaimable_updated failed]
    rintro ⟨-, past⟩
    exact absurd (past u due) (Int.lt_asymm after)

theorem noEarlier_of_none (failed : update.state = .failed) (lateFailed : late.state = .failed)
    (free : update.delayedTo = none) : late.NoEarlier update := by
  intro row token written eligible timeout at_ claimable
  rw [Ticket.isClaimable_updated lateFailed] at claimable
  rw [Ticket.isClaimable_updated failed, free]
  exact ⟨claimable.1, fun due none => by cases none⟩

/-- A delay that has an end forbids for now what one without an end allows. -/
theorem not_noEarlier (failed : update.state = .failed) (lateFailed : late.state = .failed)
    {u : Instant} (due : update.delayedTo = some u) (after : now < u) (free : late.delayedTo = none) :
    ¬ late.NoEarlier update := by
  intro noEarlier
  have atOnce := noEarlier Store.ticketAtFirst default now [.failed] default now
  rw [Ticket.isClaimable_updated lateFailed, Ticket.isClaimable_updated failed, free, due] at atOnce
  have early := (atOnce ⟨List.mem_singleton_self _, fun _ none => by cases none⟩).2 u rfl
  exact absurd early (Int.lt_asymm after)

/-- A longer delay ends no earlier than a shorter one, unless it is too long to have an end. -/
theorem noEarlier_iff (failed : update.state = .failed) (lateFailed : late.state = .failed)
    (delayedTo : update.delayedTo = delayedUntil now delay)
    (lateDelayedTo : late.delayedTo = delayedUntil now longer) (le : delay ≤ longer) :
    late.NoEarlier update ↔
      delay.isZero = true ∨ now.timeLeft ≤ delay.nanos ∨ (longer.nanos : Int) < now.timeLeft := by
  cases zero : delay.isZero with
  | true =>
    have free := noEarlier_of_none failed lateFailed (delayedTo.trans (delayedUntil_of_isZero zero))
    exact ⟨fun _ => .inl rfl, fun _ => free⟩
  | false =>
    simp only [Bool.false_eq_true, false_or]
    rcases Int.lt_or_le delay.nanos now.timeLeft with room | past
    · obtain ⟨u, due, sum, after⟩ := delayedUntil_of_lt zero room
      rcases Int.lt_or_le longer.nanos now.timeLeft with roomLonger | pastLonger
      · obtain ⟨v, dueLonger, sumLonger, -⟩ := delayedUntil_of_lt (waits_of_le le zero) roomLonger
        refine ⟨fun _ => .inr roomLonger, fun _ row token written eligible timeout at_ claimable => ?_⟩
        rw [Ticket.isClaimable_updated lateFailed, lateDelayedTo, dueLonger] at claimable
        rw [Ticket.isClaimable_updated failed, delayedTo, due]
        refine ⟨claimable.1, fun w is => ?_⟩
        cases is
        exact Int.lt_of_le_of_lt (later?_le_later? le sum sumLonger) (claimable.2 v rfl)
      · have free := lateDelayedTo.trans (delayedUntil_of_le pastLonger)
        refine ⟨fun noEarlier => ?_, fun h => ?_⟩
        · exact (not_noEarlier failed lateFailed (delayedTo.trans due) after free noEarlier).elim
        · omega
    · have free := noEarlier_of_none failed lateFailed (delayedTo.trans (delayedUntil_of_le past))
      exact ⟨fun _ => .inl past, fun _ => free⟩

end

/-- A failure that leaves retries over. -/
theorem ofOutcome_of_failed {policy : DeliveryPolicy} {backoff : BackoffPolicy}
    {retryCount : UInt32} {reason : String} {now : Instant}
    (failed : (ofOutcome policy backoff retryCount (.failed reason) now).state = .failed)
    (other : BackoffPolicy) :
    ofOutcome policy other retryCount (.failed reason) now =
      ⟨.failed, countFailure retryCount,
        delayedUntil now (other.delayBefore (countFailure retryCount)), none⟩ := by
  cases exhausted : policy.retriesExhausted (countFailure retryCount) with
  | false => simp [ofOutcome, exhausted]
  | true =>
    simp only [ofOutcome, exhausted, if_true] at failed
    cases failed

/-- A failure holds its ticket back for the delay exactly when the delay ends before time does, and
a longer delay holds it back for no less exactly where it ends before time does, too. -/
theorem backoff_kept_iff (policy : DeliveryPolicy) (backoff : BackoffPolicy) (retryCount : UInt32)
    (reason : String) (now : Instant)
    (failed : (ofOutcome policy backoff retryCount (.failed reason) now).state = .failed) :
    let update := ofOutcome policy backoff retryCount (.failed reason) now
    let delay := backoff.delayBefore update.retryCount
    (delay.isZero = false →
      (update.HoldsBack now delay ↔ (delay.nanos : Int) < now.timeLeft) ∧
      (now.timeLeft ≤ delay.nanos → update.delayedTo = none)) ∧
    ∀ other : BackoffPolicy, delay ≤ other.delayBefore update.retryCount →
      ((ofOutcome policy other retryCount (.failed reason) now).NoEarlier update ↔
        delay.isZero = true ∨ now.timeLeft ≤ delay.nanos ∨
          ((other.delayBefore update.retryCount).nanos : Int) < now.timeLeft) := by
  have written := ofOutcome_of_failed failed
  have delayedTo : ∀ other, (ofOutcome policy other retryCount (.failed reason) now).delayedTo =
      delayedUntil now (other.delayBefore (countFailure retryCount)) := by
    intro other
    rw [written other]
  have retries : (ofOutcome policy backoff retryCount (.failed reason) now).retryCount =
      countFailure retryCount := by
    rw [written backoff]
  simp only [retries]
  refine ⟨fun waits => ⟨holdsBack_iff failed (delayedTo backoff) waits, fun past => ?_⟩,
    fun other le => ?_⟩
  · exact (delayedTo backoff).trans (delayedUntil_of_le past)
  · have otherFailed : (ofOutcome policy other retryCount (.failed reason) now).state = .failed := by
      rw [written other]
    exact noEarlier_iff failed otherFailed (delayedTo backoff) (delayedTo other) le

/-- A minute, and a day beside it. -/
theorem backoff_kept_iff_minute :
    let update := ofOutcome .default (.fixed (.ofSecs 60)) 0 (.failed "busy") default
    update.state = .failed ∧ update.HoldsBack default (.ofSecs 60) ∧
      (ofOutcome .default (.fixed (.ofSecs 86400)) 0 (.failed "busy") default).NoEarlier update := by
  have failed :
      (ofOutcome .default (.fixed (.ofSecs 60)) 0 (.failed "busy") default).state = .failed := by
    decide +kernel
  have kept := backoff_kept_iff .default (.fixed (.ofSecs 60)) 0 "busy" default failed
  have first : (ofOutcome .default (.fixed (.ofSecs 60)) 0 (.failed "busy") default).retryCount = 1 := by
    decide +kernel
  have minute : (BackoffPolicy.fixed (.ofSecs 60)).delayBefore 1 = .ofSecs 60 := by decide +kernel
  have day : (BackoffPolicy.fixed (.ofSecs 86400)).delayBefore 1 = .ofSecs 86400 := by decide +kernel
  simp only [first, minute] at kept
  refine ⟨failed, (kept.1 (by decide +kernel)).1.2 (by decide +kernel), ?_⟩
  refine (kept.2 (.fixed (.ofSecs 86400)) ?_).2 (.inr (.inr ?_))
  · rw [day]
    decide +kernel
  · rw [day]
    decide +kernel

/-- A delay of 295 million years skips itself: the failed ticket is handed out at once. -/
theorem long_backoff_skipped :
    let backoff := BackoffPolicy.fixed (.ofSecs 9_300_000_000_000_000)
    let update := ofOutcome .default backoff 0 (.failed "busy") default
    update.state = .failed ∧ (backoff.delayBefore update.retryCount).isZero = false ∧
      update.delayedTo = none ∧
      (Store.ticketAtFirst.updated update default default).isClaimable [.ready, .failed]
        (.ofSecs 30) default = true := by
  decide +kernel

end TicketUpdate
end MessageBus
