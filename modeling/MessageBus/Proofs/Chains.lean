import MessageBus.Proofs.TicketStep

/-! Chains of messages. A message may name the one before it, and messages never change, so that a
chain is as good as the publications that made it: as long as each one names a message that is stored
by then, every chain leads back in time, through stored messages only, to a message that names none.
-/
namespace MessageBus.Store

/-- The messages from one back to the first of its chain, all of them stored. -/
inductive Trail (s : Store) : MessageId → List MessageId → Prop
  | first {id message} (stored : s.messages.get? id = some message)
      (starts : message.previousMessage = none) : Trail s id [id]
  | next {id message previous rest} (stored : s.messages.get? id = some message)
      (names : message.previousMessage = some previous) (tail : Trail s previous rest) :
      Trail s id (id :: rest)

/-- At some point of the run the one message is stored and the other one is not. -/
def PublishedBefore (steps : List Step) (earlier later : MessageId) : Prop :=
  ∃ before rest, steps = before ++ rest ∧
    (∃ message, (run .empty before).messages.get? earlier = some message) ∧
    (run .empty before).messages.get? later = none

structure ChainsEnd (steps : List Step) : Prop where
  grounded : ∀ id message previous, (run .empty steps).messages.get? id = some message →
    message.previousMessage = some previous →
    (∃ before, (run .empty steps).messages.get? previous = some before) ∧
      PublishedBefore steps previous id
  ends : ∀ id message, (run .empty steps).messages.get? id = some message →
    ∃ trail, Trail (run .empty steps) id trail ∧ trail.Nodup

/-- A publication that names a message which is not stored. -/
def Dangles (s : Store) (step : Step) : Prop :=
  ∃ fresh message targets receipt previous, step = ⟨fresh, .publish message targets⟩ ∧
    (s.publish fresh message targets).1 = .ok receipt ∧
    message.previousMessage = some previous ∧ s.messages.get? previous = none

theorem Trail.stored {s : Store} {id other : MessageId} {trail : List MessageId}
    (h : Trail s id trail) (mem : other ∈ trail) :
    ∃ message, s.messages.get? other = some message := by
  induction h with
  | first stored =>
    cases List.mem_singleton.1 mem
    exact ⟨_, stored⟩
  | next stored _ _ ih =>
    rcases List.mem_cons.1 mem with rfl | mem
    · exact ⟨_, stored⟩
    · exact ih mem

/-- What was a trail stays one. -/
theorem Trail.step {s : Store} {id : MessageId} {trail : List MessageId} (h : Trail s id trail)
    (step : Step) : Trail (s.after step) id trail := by
  induction h with
  | first stored starts => exact .first (message_after stored step) starts
  | next stored names _ ih => exact .next (message_after stored step) names ih

theorem PublishedBefore.append {steps : List Step} {earlier later : MessageId}
    (h : PublishedBefore steps earlier later) (more : List Step) :
    PublishedBefore (steps ++ more) earlier later := by
  obtain ⟨before, rest, rfl, there, missing⟩ := h
  exact ⟨before, rest ++ more, by simp, there, missing⟩

/-- A step leaves the messages as they are, or stores one. -/
theorem message_of_after {s : Store} {step : Step} {id : MessageId} {message : Message}
    (stored : (s.after step).messages.get? id = some message) :
    s.messages.get? id = some message ∨
      s.messages.get? id = none ∧ ∃ fresh targets receipt,
        step = ⟨fresh, .publish message targets⟩ ∧
        (s.publish fresh message targets).1 = .ok receipt := by
  obtain ⟨fresh, call⟩ := step
  rw [after] at stored
  rcases messages_after s fresh call with same | ⟨new, targets, rfl, publishable, becomes⟩
  · exact .inl (by rwa [same] at stored)
  · rw [becomes, Table.get?_insert] at stored
    split at stored
    · next is =>
      cases stored
      have answered := congrArg Prod.fst (publish_of_publishable publishable fresh)
      exact .inr ⟨is ▸ publishable.new, fresh, targets, _, rfl, answered⟩
    · exact .inl stored

theorem ChainsEnd.new : ChainsEnd [] where
  grounded _ _ _ stored := by cases stored
  ends _ _ stored := by cases stored

/-- A publication that names a stored message, or none, makes its chain one message longer. -/
theorem ChainsEnd.concat {steps : List Step} {step : Step} (h : ChainsEnd steps)
    (tied : ¬ Dangles (run .empty steps) step) : ChainsEnd (steps ++ [step]) := by
  have last := run_concat .empty steps step
  -- What a message that this step stores names is stored already.
  have names : ∀ message fresh targets receipt previous,
      step = ⟨fresh, .publish message targets⟩ →
      ((run .empty steps).publish fresh message targets).1 = .ok receipt →
      message.previousMessage = some previous →
      ∃ before, (run .empty steps).messages.get? previous = some before := by
    intro message fresh targets receipt previous is answered named
    cases found : (run .empty steps).messages.get? previous with
    | some before => exact ⟨before, rfl⟩
    | none => exact absurd ⟨fresh, message, targets, receipt, previous, is, answered, named, found⟩ tied
  refine ⟨fun id message previous stored named => ?_, fun id message stored => ?_⟩
  · rw [last] at stored ⊢
    rcases message_of_after stored with old | ⟨missing, fresh, targets, receipt, is, answered⟩
    · obtain ⟨⟨before, there⟩, order⟩ := h.grounded id message previous old named
      exact ⟨⟨before, message_after there step⟩, order.append [step]⟩
    · obtain ⟨before, there⟩ := names message fresh targets receipt previous is answered named
      exact ⟨⟨before, message_after there step⟩, steps, [step], rfl, ⟨before, there⟩, missing⟩
  · rw [last] at stored ⊢
    rcases message_of_after stored with old | ⟨missing, fresh, targets, receipt, is, answered⟩
    · obtain ⟨trail, leads, distinct⟩ := h.ends id message old
      exact ⟨trail, leads.step step, distinct⟩
    · cases named : message.previousMessage with
      | none => exact ⟨[id], .first stored named, List.nodup_cons.2 ⟨List.not_mem_nil, List.nodup_nil⟩⟩
      | some previous =>
        obtain ⟨before, there⟩ := names message fresh targets receipt previous is answered named
        obtain ⟨trail, leads, distinct⟩ := h.ends previous before there
        refine ⟨id :: trail, .next stored named (leads.step step), List.nodup_cons.2 ⟨?_, distinct⟩⟩
        intro mem
        obtain ⟨_, known⟩ := leads.stored mem
        cases missing.symm.trans known

/-- A message that was stored when it was named was stored before. -/
theorem ChainsEnd.not_dangles {before later : List Step} {step : Step}
    (h : ChainsEnd (before ++ step :: later)) : ¬ Dangles (run .empty before) step := by
  rintro ⟨fresh, message, targets, receipt, previous, rfl, answered, named, missing⟩
  have publishable := publishable_of_publish answered
  have stored : ((run .empty before).after ⟨fresh, .publish message targets⟩).messages.get?
      message.id = some message :=
    (congrArg (·.2.messages.get? message.id) (publish_of_publishable publishable fresh)).trans
      (Table.get?_insert_self _ _ _)
  have final : (run .empty (before ++ ⟨fresh, .publish message targets⟩ :: later)).messages.get?
      message.id = some message := by
    rw [run_append, run_cons]
    exact message_run stored later
  obtain ⟨-, first, rest, split, ⟨old, there⟩, unknown⟩ := h.grounded _ _ _ final named
  -- The point at which only the named message is stored lies before the publication, and after it.
  rcases List.append_eq_append_iff.1 split with ⟨middle, rfl, tail⟩ | ⟨middle, rfl, -⟩
  · cases middle with
    | nil =>
      rw [List.append_nil] at there
      cases missing.symm.trans there
    | cons next middle =>
      obtain ⟨rfl, -⟩ := List.cons.inj tail
      rw [run_append, run_cons] at unknown
      cases unknown.symm.trans (message_run stored middle)
  · rw [run_append] at missing
    cases missing.symm.trans (message_run there middle)

/-- All chains of a run are well founded exactly when none of its publications names a message that
is not stored by then. -/
theorem chains_well_founded_iff (steps : List Step) :
    ChainsEnd steps ↔
      ∀ before step later, steps = before ++ step :: later → ¬ Dangles (run .empty before) step := by
  constructor
  · rintro h before step later rfl
    exact h.not_dangles
  · intro tied
    induction steps using concat_induction with
    | new => exact .new
    | next steps step ih =>
      refine (ih ?_).concat (tied steps step [] rfl)
      rintro before next later rfl
      exact tied before next (later ++ [step]) (by simp)

/-- The one message names a message that is never stored. -/
def namesUnknown : List Step := oneTicket.take 7 ++ [⟨freshFrom 1000,
  .publish { oneMessage with previousMessage := some ⟨.ofNat 99⟩ } [.subscriber ⟨.ofNat 5⟩]⟩]

theorem unknown_message_named :
    ((run .empty namesUnknown).messages.get? oneMessage.id).bind Message.previousMessage =
      some ⟨.ofNat 99⟩ ∧
    (run .empty namesUnknown).messages.get? ⟨.ofNat 99⟩ = none ∧ ¬ ChainsEnd namesUnknown := by
  have stored : (run .empty namesUnknown).messages.get? oneMessage.id =
      some { oneMessage with previousMessage := some ⟨.ofNat 99⟩ } := by
    decide +kernel
  have missing : (run .empty namesUnknown).messages.get? ⟨.ofNat 99⟩ = none := by decide +kernel
  refine ⟨by rw [stored]; rfl, missing, fun h => ?_⟩
  obtain ⟨⟨_, there⟩, -⟩ := h.grounded _ _ _ stored rfl
  cases missing.symm.trans there

end MessageBus.Store
