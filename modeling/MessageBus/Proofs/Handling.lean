import MessageBus.Proofs.Answering

/-! What handlers are given. A poll runs a handler only for the delivery of its claim, the one to
which the registry routes it under the name of its message type, and runs no second one. -/
namespace MessageBus

def Request.isHandle {η : Type} : Request η → Bool
  | .handle .. => true
  | _ => false

/-- For a handler, or for the cache. -/
def Request.isInner {η : Type} : Request η → Bool
  | .handle .. | .cachedByName _ | .cachedById _ | .remember _ => true
  | _ => false

theorem Request.isInner_of_isHandle {η : Type} (request : Request η)
    (h : request.isHandle = true) : request.isInner = true := by
  cases request with
  | handle => rfl
  | _ => cases h

/-- A delivery is routed to the handler of its message type, if its data fit the payload of that. -/
theorem Registry.route_eq_ok_iff {η : Type} {r : Registry η} {raw : RawDelivery} {handler : η}
    {envelope : Envelope} : r.route raw = .ok (handler, envelope) ↔
      ∃ type value, r.find? raw.messageType = some (type, handler) ∧
        r.serializer.decode type raw.data = .ok value ∧ envelope = .ofRaw raw ⟨type, value⟩ := by
  constructor
  · intro routed
    unfold route at routed
    split at routed
    · cases routed
    · next type _ found =>
      split at routed
      · cases routed
      · next value decoded =>
        cases routed
        exact ⟨type, value, found, decoded, rfl⟩
  · rintro ⟨type, value, found, decoded, rfl⟩
    rw [route, found]
    dsimp only
    rw [decoded]

namespace Routine
open Store
variable {η α β : Type}

theorem run_lift_bind (routine : Routine η β) (f : β → StoreRoutine η α) :
    (ExceptT.lift routine >>= f).run = routine.andThen fun b => (f b).run :=
  Program.andThen_assoc routine _ _

/-- What a routine has asked for and what it asks for now. -/
def asked (moves : List (Move η)) : Routine η α → List (Request η)
  | Program.done _ => requestsOf moves
  | Program.ask request _ => requestsOf moves ++ [request]

/-- Every run is one of moves. -/
theorem Runs.reaches {routine : Routine η α} {s : Store} {steps : List Step} {a : α}
    (h : Runs routine s steps a) :
    ∃ moves, stepsOf moves = steps ∧ Reaches routine s moves (.done a) := by
  induction h with
  | done => exact ⟨[], rfl, .here⟩
  | other step _ ih =>
    obtain ⟨moves, rfl, rest⟩ := ih
    exact ⟨.other step :: moves, rfl, .other step rest⟩
  | asked answered _ ih =>
    obtain ⟨moves, rfl, rest⟩ := ih
    exact ⟨.own _ _ _ :: moves, rfl, .own answered rest⟩

end Routine

namespace Worker
open Store Routine
variable {η : Type} (w : Worker η)

theorem selecting_avoids_inner : Avoids Request.isInner w.selecting.run :=
  w.avoids_selecting rfl rfl (fun _ _ => rfl) (fun _ _ _ _ => rfl) fun _ _ _ _ => rfl

theorem finishing_avoids_inner (outcome : PollOutcome) :
    Avoids Request.isInner (finishing outcome : StoreRoutine η PollOutcome).run :=
  avoids_finishing rfl

theorem committing_avoids_inner (d : Delivery) (result : HandlerResult) (made now : Instant) :
    Avoids Request.isInner (w.committing d result made now).run :=
  .bind (.ask rfl) fun _ => avoids_reporting rfl rfl rfl fun _ _ => rfl

/-- From the result of a handler to the commit. -/
theorem concluding_avoids_inner (handled : Nat × HandlerResult) : Avoids Request.isInner
    (do
      ExceptT.lift (ask (.stopPulse handled.1))
      let made ← ExceptT.lift (ask .now)
      let now ← ExceptT.lift (ask .now)
      return (handled.2, made, now) : StoreRoutine η (HandlerResult × Instant × Instant)).run :=
  .bind (.lift (.ask rfl)) fun _ => .bind (.lift (.ask rfl)) fun _ =>
    .bind (.lift (.ask rfl)) fun _ => trivial

section
variable {w} {s : Store} {moves : List (Move η)} {d : Delivery} {handler : η} {envelope : Envelope}

theorem dispatch_of_reaches {raw : RawDelivery}
    {next : Except HandlerPanic HandlerResult → Routine η HandlerResult}
    (h : Reaches (w.dispatch raw) s moves (Program.ask (.handle handler envelope) next)) :
    w.registry.route raw = .ok (handler, envelope) ∧
      ∀ answer, Avoids Request.isHandle (next answer) := by
  unfold dispatch at h
  split at h
  · cases h.of_done.1
  · next routed =>
    rcases h.ask_split with ⟨_, -, same⟩ | ⟨_, _, answer, _, -, -, h⟩
    · cases same
      refine ⟨routed, fun answer => ?_⟩
      cases answer with
      | ok result => trivial
      | error panic => trivial
    · cases answer with
      | ok result => cases h.of_done.1
      | error panic => cases h.of_done.1

theorem handling_of_reaches
    {next : Except HandlerPanic HandlerResult → Routine η (Except StoreError (Nat × HandlerResult))}
    (there : ∃ row, s.messageTypes.get? d.message.messageType = some row)
    (h : Reaches (w.handling d).run s moves (Program.ask (.handle handler envelope) next)) :
    (∃ name, FindsName d.message.messageType moves name ∧
      w.registry.route (.ofClaim d name) = .ok (handler, envelope)) ∧
      ∀ answer, Avoids Request.isHandle (next answer) := by
  rcases h.split with ⟨request, inner, same, early⟩ | ⟨found, loading, rest, rfl, loads, h⟩
  · have types : Avoids Request.isHandle
        (messageTypeById d.message.messageType : StoreRoutine η MessageType).run :=
      avoids_messageTypeById rfl rfl fun _ => rfl
    have quiet := (early.avoids types).1.1
    cases same
    cases quiet
  obtain ⟨row, rfl, names⟩ := finds_messageType there loads
  rcases h.ask_split with ⟨_, -, same⟩ | ⟨others, own, pulse, rest, rfl, -, h⟩
  · cases same
  have h : Reaches (ExceptT.lift (w.dispatch (.ofClaim d row.name)) >>= fun handled =>
      (pure (pulse, handled) : StoreRoutine η _)).run _ _ _ := h
  rw [run_lift_bind] at h
  rcases h.split with ⟨request, inner, same, early⟩ | ⟨handled, _, _, rfl, -, h⟩
  · cases same
    obtain ⟨routed, last⟩ := dispatch_of_reaches early
    exact ⟨⟨row.name, names.mono (List.subset_append_left _ _), routed⟩,
      fun answer => .andThen (last answer) fun _ => trivial⟩
  · cases h.of_done.1

theorem preparing_of_reaches
    {next : Except HandlerPanic HandlerResult →
      Routine η (Except StoreError (HandlerResult × Instant × Instant))}
    (there : ∃ row, s.messageTypes.get? d.message.messageType = some row)
    (h : Reaches (w.preparing d).run s moves (Program.ask (.handle handler envelope) next)) :
    (∃ name, FindsName d.message.messageType moves name ∧
      w.registry.route (.ofClaim d name) = .ok (handler, envelope)) ∧
      ∀ answer, Avoids Request.isHandle (next answer) := by
  rcases h.split with ⟨request, inner, same, early⟩ | ⟨handled, _, _, rfl, -, h⟩
  · cases same
    obtain ⟨routed, last⟩ := handling_of_reaches there early
    refine ⟨routed, fun answer => .andThen (last answer) fun handled => ?_⟩
    cases handled with
    | error e => trivial
    | ok handled => exact (concluding_avoids_inner handled).mono Request.isInner_of_isHandle
  · cases handled with
    | error e => cases h.of_done.1
    | ok handled => cases (h.avoids (concluding_avoids_inner handled)).1.1

theorem answering_of_reaches
    {next : Except HandlerPanic HandlerResult → Routine η (Except StoreError PollOutcome)}
    (there : ∃ row, s.messageTypes.get? d.message.messageType = some row)
    (h : Reaches (w.answering (.claimed d)).run s moves
      (Program.ask (.handle handler envelope) next)) :
    (∃ name, FindsName d.message.messageType moves name ∧
      w.registry.route (.ofClaim d name) = .ok (handler, envelope)) ∧
      ∀ answer, Avoids Request.isHandle (next answer) := by
  have committing (ready : HandlerResult × Instant × Instant) : Avoids Request.isInner
      (w.committing d ready.1 ready.2.1 ready.2.2 >>= finishing).run :=
    .bind (w.committing_avoids_inner d _ _ _) finishing_avoids_inner
  rw [answering_claimed] at h
  rcases h.split with ⟨request, inner, same, early⟩ | ⟨ready, _, _, rfl, -, h⟩
  · cases same
    obtain ⟨routed, last⟩ := preparing_of_reaches there early
    refine ⟨routed, fun answer => .andThen (last answer) fun ready => ?_⟩
    cases ready with
    | error e => trivial
    | ok ready => exact (committing ready).mono Request.isInner_of_isHandle
  · cases ready with
    | error e => cases h.of_done.1
    | ok ready => cases (h.avoids (committing ready)).1.1

theorem handles_of_handling {pulse : Nat} {result : HandlerResult}
    (h : Reaches (w.handling d).run s moves (.done (.ok (pulse, result)))) :
    ∃ name, w.Handles (.ofClaim d name) moves result := by
  obtain ⟨found, loading, rest, rfl, -, h⟩ := h.split_done
  cases found with
  | error e => cases h.of_done.1
  | ok row =>
    obtain ⟨_, _, started, rest, rfl, -, h⟩ := h.ask_done
    have h : Reaches (ExceptT.lift (w.dispatch (.ofClaim d row.name)) >>= fun handled =>
        (pure (started, handled) : StoreRoutine η _)).run _ _ _ := h
    obtain ⟨handled, dispatching, _, rfl, dispatches, h⟩ := h.split_lift
    cases h.of_done.1
    refine ⟨row.name, (handles_of_dispatch dispatches).mono fun move mem => ?_⟩
    simp [mem]

/-- A snapshot comes from a handler that has returned it. -/
theorem Handles.returned_of_snapshot {raw : RawDelivery} {result : HandlerResult}
    (h : w.Handles raw moves result) : result.snapshot = none ∨
      ∃ handler envelope, .own (.handle handler envelope) [] (.ok result) ∈ moves := by
  cases h with
  | unrouted => exact .inl rfl
  | returned _ ends => exact .inr ⟨_, _, ends⟩
  | panicked => exact .inl rfl

/-- A poll comes to a handler from a claim of its own. It is the handler to which the registry routes
the delivery, and no other one runs afterwards. -/
theorem handle_of_reaches {past : List Step}
    {next : Except HandlerPanic HandlerResult → Routine η (Except StoreError PollOutcome)}
    (h : Reaches w.runOnce.run (run .empty past) moves
      (Program.ask (.handle handler envelope) next)) :
    ∃ before candidate timeout now steps d after name,
      moves = before ++ .own (.attempt (.tryClaim candidate w.consumer timeout now)) steps
        (.ok (.claimed d)) :: after ∧
      FindsName d.message.messageType after name ∧
      w.registry.route (.ofClaim d name) = .ok (handler, envelope) ∧
      ∀ answer, Avoids Request.isHandle (next answer) := by
  rw [runOnce_eq_selecting] at h
  rcases h.split with ⟨request, inner, same, early⟩ | ⟨found, first, rest, rfl, -, h⟩
  · have quiet := (early.avoids w.selecting_avoids_inner).1.1
    cases same
    cases quiet
  cases found with
  | error e => cases h.of_done.1
  | ok found =>
    obtain ⟨now, candidate?⟩ := found
    cases candidate? with
    | none => cases (h.avoids (finishing_avoids_inner _)).1.1
    | some candidate =>
      rcases h.ask_split with ⟨_, -, same⟩ | ⟨others, own, answer, rest, rfl, answered, h⟩
      · cases same
      cases answer with
      | error e => cases h.of_done.1
      | ok claim =>
        cases claim with
        | empty => cases (h.avoids (finishing_avoids_inner _)).1.1
        | lost ticket => cases (h.avoids (finishing_avoids_inner _)).1.1
        | claimed d =>
          rw [← run_append, ← run_append] at answered
          rw [← run_append, ← run_append, ← List.append_assoc, ← List.append_assoc] at h
          have there := (claimed_of_answered answered).messageType
          rw [← List.append_assoc] at there
          obtain ⟨⟨name, names, routed⟩, last⟩ := answering_of_reaches there h
          exact ⟨first ++ others.map .other, candidate, w.policy.processingTimeout, now, own, d, rest,
            name, by simp, names, routed, last⟩

end

end Worker
end MessageBus
