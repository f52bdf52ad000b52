import MessageBus.Proofs.Lease
import MessageBus.Proofs.Spans

/-! How the time and the timeout bear on claims. As time passes, or the timeout gets shorter, fewer
claims count as being worked on: what could be claimed can still be claimed, and a poll never selects
a ticket that would refuse the claim. -/
namespace MessageBus

section
variable {now now' : Instant} {timeout timeout' : Duration}

/-- The cutoff moves on with time, and with a shorter timeout. -/
theorem reclaimCutoff_mono (regular : ¬ now.isLeap) (regular' : ¬ now'.isLeap)
    (later : now ≤ now') (shorter : timeout' ≤ timeout) :
    reclaimCutoff now timeout ≤ reclaimCutoff now' timeout' := by
  unfold reclaimCutoff
  cases found : now.earlier? timeout with
  | none => exact Instant.first_le _
  | some cutoff =>
    have passed := Instant.nanos_le_of_le regular regular' later
    have less : timeout'.nanos ≤ timeout.nanos := shorter
    have reached := (Instant.exists_earlier?_iff regular).1 ⟨cutoff, found⟩
    obtain ⟨cutoff', found'⟩ :=
      (Instant.exists_earlier?_iff (d := timeout') regular').2 (by omega)
    obtain ⟨-, outside, moved⟩ := (Instant.earlier?_eq_some_iff regular).1 found
    obtain ⟨-, outside', moved'⟩ := (Instant.earlier?_eq_some_iff regular').1 found'
    rw [found']
    have ordered : cutoff.nanos ≤ cutoff'.nanos := by omega
    exact Instant.le_of_nanos_le outside outside' ordered

/-- A timeout that reaches back beyond the first instant has that instant as its cutoff. -/
theorem reclaimCutoff_of_beyond (regular : ¬ now.isLeap)
    (beyond : Duration.longestStep < timeout.nanos ∨
      now.nanos < Instant.first.nanos + timeout.nanos) :
    reclaimCutoff now timeout = .first := by
  have none : now.earlier? timeout = none := by
    refine Option.eq_none_iff_forall_ne_some.2 fun cutoff found => ?_
    have short := ((Instant.earlier?_eq_some_iff regular).1 found).1
    have reached := (Instant.exists_earlier?_iff regular).1 ⟨cutoff, found⟩
    omega
  rw [reclaimCutoff, none]
  rfl

namespace Ticket
variable {row : Ticket}

theorem isStale_eq_true_iff :
    row.isStale timeout now = true ↔
      row.state = .inProgress ∧ ∀ access, row.lastAccess = some access →
        access < reclaimCutoff now timeout := by
  rw [isStale, Bool.and_eq_true, beq_iff_eq]
  refine and_congr_right fun _ => ?_
  cases row.lastAccess <;> simp

theorem isStale_mono (earlier : reclaimCutoff now timeout ≤ reclaimCutoff now' timeout')
    (stale : row.isStale timeout now = true) : row.isStale timeout' now' = true := by
  rw [isStale_eq_true_iff] at *
  exact ⟨stale.1, fun access known => Int.lt_of_lt_of_le (stale.2 access known) earlier⟩

theorem isClaimable_mono {eligible : List TicketState} (later : now ≤ now')
    (earlier : reclaimCutoff now timeout ≤ reclaimCutoff now' timeout')
    (claimable : row.isClaimable eligible timeout now = true) :
    row.isClaimable eligible timeout' now' = true := by
  unfold isClaimable at *
  split at claimable
  · next working =>
    rw [if_pos working]
    exact isStale_mono earlier claimable
  · next idle =>
    rw [if_neg idle]
    simp only [Bool.and_eq_true, Option.all_eq_true_iff_get, decide_eq_true_eq] at *
    exact ⟨claimable.1, fun delayed => Int.lt_of_lt_of_le (claimable.2 delayed) later⟩

theorem acceptsClaim_mono {observed : ConcurrencyToken}
    (earlier : reclaimCutoff now timeout ≤ reclaimCutoff now' timeout')
    (accepts : row.acceptsClaim observed timeout now = true) :
    row.acceptsClaim observed timeout' now' = true := by
  rw [Store.acceptsClaim_eq_true_iff] at *
  exact ⟨accepts.1, accepts.2.1, accepts.2.2.imp_right (isStale_mono earlier)⟩

/-- What a poll selects accepts the claim under its own token. -/
theorem acceptsClaim_of_isClaimable {eligible : List TicketState}
    (claimable : row.isClaimable eligible timeout now = true)
    (live : row.state.isTerminal = false) : row.acceptsClaim row.token timeout now = true := by
  rw [Store.acceptsClaim_eq_true_iff]
  refine ⟨live, .inr rfl, ?_⟩
  unfold isClaimable at claimable
  split at claimable
  · exact .inr claimable
  · next idle => exact .inl idle

/-- No access lies before the first instant. -/
theorem isStale_of_first (first : reclaimCutoff now timeout = .first) :
    row.isStale timeout now = true ↔ row.state = .inProgress ∧ row.lastAccess = none := by
  rw [isStale_eq_true_iff, first]
  refine and_congr_right fun _ => ?_
  rw [Option.eq_none_iff_forall_ne_some]
  refine forall_congr' fun access => ?_
  have late : ¬ access < .first := Int.not_lt.2 (Instant.first_le access)
  simp only [late, ne_eq, imp_false]

/-- Claimability only grows as time passes and the timeout gets shorter, and a poll selects nothing
that would refuse the claim. Under a timeout that reaches back beyond the first instant only a claim
without any access is stale. -/
theorem claimability_grows (row : Ticket) (eligible : List TicketState)
    (observed : ConcurrencyToken) {now now' : Instant} {timeout timeout' : Duration}
    (regular : ¬ now.isLeap) (regular' : ¬ now'.isLeap) (later : now ≤ now')
    (shorter : timeout' ≤ timeout) :
    reclaimCutoff now timeout ≤ reclaimCutoff now' timeout' ∧
    (row.isStale timeout now = true → row.isStale timeout' now' = true) ∧
    (row.isClaimable eligible timeout now = true →
      row.isClaimable eligible timeout' now' = true) ∧
    (row.acceptsClaim observed timeout now = true →
      row.acceptsClaim observed timeout' now' = true) ∧
    (row.isClaimable eligible timeout now = true → row.state.isTerminal = false →
      row.acceptsClaim row.token timeout now = true) ∧
    (Duration.longestStep < timeout.nanos ∨ now.nanos < Instant.first.nanos + timeout.nanos →
      (row.isStale timeout now = true ↔ row.state = .inProgress ∧ row.lastAccess = none)) := by
  have cutoffs := reclaimCutoff_mono regular regular' later shorter
  refine ⟨cutoffs, isStale_mono cutoffs, isClaimable_mono later cutoffs, acceptsClaim_mono cutoffs,
    acceptsClaim_of_isClaimable, fun beyond => ?_⟩
  exact isStale_of_first (reclaimCutoff_of_beyond regular beyond)

/-- The claim of the first ticket, given up after a minute, is so for a shorter timeout an hour
later. -/
theorem claimability_grows_abandoned :
    let row := Store.ticketAtFirst.claimedBy Store.runner.instanceUuid ⟨.ofNat 2000⟩ default
    let afterMinute : Instant := ⟨61_000_000_001, by decide⟩
    let afterHour : Instant := ⟨3660_000_000_000, by decide⟩
    row.isStale (.ofSecs 60) default = false ∧ row.isStale (.ofSecs 60) afterMinute = true ∧
      row.isStale (.ofSecs 30) afterHour = true := by
  intro row afterMinute afterHour
  have regular : ¬ afterMinute.isLeap ∧ ¬ afterHour.isLeap := by decide +kernel
  have later : afterMinute ≤ afterHour := by decide +kernel
  have shorter : Duration.ofSecs 30 ≤ Duration.ofSecs 60 := by decide +kernel
  have grows := claimability_grows row [] row.token regular.1 regular.2 later shorter
  have stale : row.isStale (.ofSecs 60) afterMinute = true := by decide +kernel
  exact ⟨by decide +kernel, stale, grows.2.1 stale⟩

/-- No timeout is too long for a ticket in progress that has no access: it is stale at once. -/
theorem unaccessed_always_stale :
    let row := { Store.ticketAtFirst with state := .inProgress }
    let longest := Duration.ofSecs 18_446_744_073_709_551_615
    Duration.longestStep < longest.nanos ∧ row.isStale longest default = true ∧
      row.isClaimable [] longest default = true ∧
      row.acceptsClaim row.token longest default = true := by
  decide +kernel

end Ticket
end
end MessageBus
