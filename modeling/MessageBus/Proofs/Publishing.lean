import MessageBus.Proofs.Traffic

/-! The course of a publication: it finds the number of its type, encodes its payload, names and dates
its message, asks for the queues if it was given none, and calls the store. -/
namespace MessageBus

/-- The calls that only look something up. -/
def Store.Call.isLook : Store.Call → Bool
  | .messageTypeByName _ | .messageTypeById _ | .loadSubscriber _ | .loadJob _
  | .resolveTargets .. | .findNextFifo .. | .findNextNonFifo .. | .loadTicket .. | .loadMessage _
  | .ticketsForMessage _ | .countByState _ | .loadSnapshot _ | .listLogs _ | .currentState _ => true
  | _ => false

/-- A request that may change a store or what a worker has counted. -/
def Request.isWriting {η : Type} : Request η → Bool
  | .store call | .attempt call => !call.isLook
  | .tally _ => true
  | _ => false

/-- A request that no look-up of a message type makes. -/
def Request.isBeyondLookup {η : Type} : Request η → Bool
  | .cachedByName _ | .cachedById _ | .remember _ => false
  | .store (.messageTypeByName _) | .store (.messageTypeById _) => false
  | _ => true

theorem Request.isBeyondLookup_of_isWriting {η : Type} (request : Request η)
    (h : request.isWriting = true) : request.isBeyondLookup = true := by
  cases request with
  | store call =>
    cases call with
    | messageTypeByName | messageTypeById => cases h
    | _ => rfl
  | cachedByName | cachedById | remember => cases h
  | _ => rfl

namespace Traffic
open Store Routine
variable {η : Type} {s : Store} {moves : List (Move η)}

theorem lookup_avoids (lookup : Lookup) :
    Avoids Request.isBeyondLookup (lookup.routine : Routine η _) := by
  have loading : Avoids Request.isBeyondLookup (lookup.loading : Routine η _) := by
    cases lookup with
    | byName name | byId id =>
      refine ⟨rfl, ?_⟩
      rintro (e | (_ | row))
      · trivial
      · trivial
      · exact ⟨rfl, fun _ => trivial⟩
  have answered (hit : Option MessageType) :
      Avoids Request.isBeyondLookup (lookup.proceeding hit : Routine η _) := by
    cases hit with
    | some row => trivial
    | none => exact loading
  rw [Lookup.routine_eq]
  cases lookup <;> exact ⟨rfl, answered⟩

theorem message_avoids (self : Publisher.Identity) (payload : Payload) (publication : Publication) :
    Avoids Request.isWriting (self.message payload publication : StoreRoutine η Message).run := by
  refine .bind ((lookup_avoids (.byName _)).mono Request.isBeyondLookup_of_isWriting) fun row => ?_
  cases self.serializer.encode payload with
  | error e => trivial
  | ok data =>
    cases publication.id with
    | some id => exact .bind trivial fun _ => .bind (.lift (.ask rfl)) fun _ => trivial
    | none => exact .bind (.lift (.ask rfl)) fun _ => .bind (.lift (.ask rfl)) fun _ => trivial

/-- A look-up that finds a row was told of it. -/
theorem told_of_lookup {lookup : Lookup} {row : MessageType}
    (h : Reaches (lookup.routine : Routine η _) s moves (.done (.ok row))) :
    Told moves lookup row := by
  rw [Lookup.routine_eq] at h
  cases lookup with
  | byName _ | byId _ =>
    obtain ⟨others, own, hit, rest, rfl, -, h⟩ := h.ask_done
    cases hit with
    | some found =>
      cases h.of_done.1
      exact ⟨_, own, _, Caching.mem_middle _ _ _, by constructor⟩
    | none =>
      obtain ⟨_, own, answer, rest, rfl, -, h⟩ := h.ask_done
      match answer with
      | .error e => cases h.of_done.1
      | .ok none => cases h.of_done.1
      | .ok (some found) =>
        obtain ⟨_, _, _, _, rfl, -, h⟩ := h.ask_done
        cases h.of_done.1
        exact ⟨_, own, _, List.mem_append_right _ (.tail _ (Caching.mem_middle _ _ _)),
          by constructor⟩

/-- What a look-up by number finds is the name of a row of which it was told. -/
theorem told_of_findsName {id : MessageTypeId} {name : String}
    (h : Worker.FindsName id moves name) : ∃ row, Told moves (.byId id) row ∧ row.name = name := by
  cases h with
  | cached hit => exact ⟨_, ⟨_, _, _, hit, .cachedById⟩, rfl⟩
  | loaded _ found => exact ⟨_, ⟨_, _, _, found, .loadedById⟩, rfl⟩

end Traffic

namespace Publisher.Identity
open Store Routine Traffic
variable {η : Type} {self : Publisher.Identity} {payload : Payload} {publication : Publication}
  {s : Store} {moves : List (Move η)}

/-- How the message of a publication is named: as it was asked for, or anew. -/
inductive Names (publication : Publication) (moves : List (Move η)) : MessageId → Prop
  | given {id} (given : publication.id = some id) : Names publication moves id
  | new {id} (free : publication.id = none) (made : .own .freshMessage [] id ∈ moves) :
      Names publication moves id

/-- The message is one that was composed of the payload. -/
structure Composes (sender : Publisher.Identity) (payload : Payload) (publication : Publication)
    (moves : List (Move η)) (message : Message) : Prop where
  data : sender.serializer.encode payload = .ok message.data
  id : Names publication moves message.id
  messageType : ∃ row, Told moves (.byName payload.type.messageType) row ∧
    row.id = message.messageType
  publisherInstance : message.publisherInstance = sender.runner
  previousMessage : message.previousMessage = publication.previousMessage
  created : .own .now [] message.created ∈ moves
  validTo : message.validTo = publication.validTo
  isRecovery : message.isRecovery = publication.isRecovery

theorem Names.mono {more : List (Move η)} {id : MessageId} (h : Names publication moves id)
    (le : moves ⊆ more) : Names publication more id := by
  cases h with
  | given given => exact .given given
  | new free made => exact .new free (le made)

theorem Composes.mono {more : List (Move η)} {message : Message}
    (h : self.Composes payload publication moves message) (le : moves ⊆ more) :
    self.Composes payload publication more message := by
  obtain ⟨row, told, same⟩ := h.messageType
  exact { h with
    id := h.id.mono le
    messageType := ⟨row, told.mono le, same⟩
    created := le h.created }

/-- Without a registered type there is no message, and without an encoding there is none. -/
theorem message_of_reaches {result : Except StoreError Message}
    (h : Reaches (self.message payload publication : StoreRoutine η Message).run s moves
      (.done result)) :
    (∃ message, result = .ok message ∧ self.Composes payload publication moves message) ∨
    (∃ e, result = .error e ∧ Reaches (Lookup.byName payload.type.messageType).routine s moves
      (.done (.error e))) ∨
    ∃ e, result = .error (.serialization e.message) ∧ self.serializer.encode payload = .error e := by
  obtain ⟨found, first, rest, rfl, looks, h⟩ := h.split_done
  have looks : Reaches (Lookup.byName payload.type.messageType).routine s first (.done found) := looks
  cases found with
  | error e =>
    obtain ⟨is, others, rfl⟩ := h.of_done
    cases is
    exact .inr (.inl ⟨e, rfl, looks.trans (.others _ _ _)⟩)
  | ok row =>
    have told := (told_of_lookup looks).mono (List.subset_append_left first rest)
    dsimp only [ExceptT.run_mk, ExceptT.bindCont] at h
    split at h
    · next e failed =>
      cases h.of_done.1
      exact .inr (.inr ⟨e, rfl, failed⟩)
    · next data encoded =>
      refine .inl ?_
      split at h
      · next id given =>
        obtain ⟨others, own, created, last, rfl, answered, h⟩ := h.ask_done
        cases answered.of_elsewhere fun _ => ⟨nofun, nofun⟩
        cases h.of_done.1
        refine ⟨_, rfl, encoded, .given given, ⟨row, told, rfl⟩, rfl, rfl, ?_, rfl, rfl⟩
        simp
      · next free =>
        obtain ⟨_, _, id, _, rfl, made, h⟩ := h.ask_done
        obtain ⟨_, _, created, _, rfl, answered, h⟩ := h.ask_done
        cases made.of_elsewhere fun _ => ⟨nofun, nofun⟩
        cases answered.of_elsewhere fun _ => ⟨nofun, nofun⟩
        cases h.of_done.1
        refine ⟨_, rfl, encoded, .new free ?_, ⟨row, told, rfl⟩, rfl, rfl, ?_, rfl, rfl⟩
        · simp
        · simp

/-- The last call of a publication. -/
theorem sent_of_reaches {message : Message} {targets : List QueueRef}
    {result : Except StoreError PublishReceipt}
    (h : Reaches (Routine.call (.publish message targets) : StoreRoutine η _).run s moves
      (.done result)) :
    ∃ (before after : List Step) (fresh : Fresh),
      moves = before.map .other ++ .own (.store (.publish message targets))
        [⟨fresh, .publish message targets⟩] result :: after.map .other ∧
      result = Step.answer ⟨fresh, .publish message targets⟩ (s.run before) := by
  obtain ⟨before, own, answer, rest, rfl, answered, h⟩ := h.ask_done
  obtain ⟨fresh, rfl, is⟩ := answered.of_store
  obtain ⟨same, after, rfl⟩ := h.of_done
  cases same
  exact ⟨before, after, fresh, rfl, is⟩

/-- A publication that succeeds has its message stored, and says which one it is. -/
theorem stored_of_sent {message : Message} {targets : List QueueRef} {receipt : PublishReceipt}
    (h : Reaches (Routine.call (.publish message targets) : StoreRoutine η _).run s moves
      (.done (.ok receipt))) :
    receipt.message = message.id ∧
      (s.run (stepsOf moves)).messages.get? message.id = some message := by
  obtain ⟨before, after, fresh, rfl, is⟩ := sent_of_reaches h
  have went : ((s.run before).publish fresh message targets).1 = .ok receipt := is.symm
  have publishable := publishable_of_publish went
  have done := publish_of_publishable publishable fresh
  have answer : Step.answer ⟨fresh, .publish message targets⟩ (s.run before) = .ok _ :=
    congrArg Prod.fst done
  cases is.trans answer
  refine ⟨rfl, ?_⟩
  rw [stepsOf_append, stepsOf_others, stepsOf_cons, stepsOf_others, run_append, run_append]
  refine message_run ?_ after
  exact (congrArg (·.2.messages.get? message.id) done).trans (Table.get?_insert_self _ _ _)

theorem stored_of_publish {past : List Step} {receipt : PublishReceipt}
    (h : Reaches (self.publish payload publication : StoreRoutine η _).run (run .empty past) moves
      (.done (.ok receipt))) :
    ∃ message, self.Composes payload publication moves message ∧ receipt.message = message.id ∧
      (run .empty (past ++ stepsOf moves)).messages.get? message.id = some message := by
  obtain ⟨composed, first, rest, rfl, composes, h⟩ := h.split_done
  rcases message_of_reaches composes with ⟨message, rfl, made⟩ | ⟨e, rfl, -⟩ | ⟨e, rfl, -⟩
  · obtain ⟨targets, second, last, rfl, -, h⟩ := h.split_done
    cases targets with
    | error e => cases h.of_done.1
    | ok targets =>
      obtain ⟨id, stored⟩ := stored_of_sent h
      refine ⟨message, made.mono (List.subset_append_left _ _), id, ?_⟩
      simpa using stored
  · cases h.of_done.1
  · cases h.of_done.1

theorem stored_of_publishTo {past : List Step} {targets : List QueueRef} {receipt : PublishReceipt}
    (h : Reaches (self.publishTo payload targets : StoreRoutine η _).run (run .empty past) moves
      (.done (.ok receipt))) :
    ∃ message, self.Composes payload .plain moves message ∧ receipt.message = message.id ∧
      (run .empty (past ++ stepsOf moves)).messages.get? message.id = some message := by
  obtain ⟨composed, first, rest, rfl, composes, h⟩ := h.split_done
  rcases message_of_reaches composes with ⟨message, rfl, made⟩ | ⟨e, rfl, -⟩ | ⟨e, rfl, -⟩
  · obtain ⟨id, stored⟩ := stored_of_sent h
    refine ⟨message, made.mono (List.subset_append_left _ _), id, ?_⟩
    simpa using stored
  · cases h.of_done.1
  · cases h.of_done.1

/-- The store has the number of a composed message for the name of its type. -/
theorem Composes.direct {κ ι : Type} {w : World κ ι η} {message : Message}
    (made : self.Composes payload publication moves message) (honest : Honest w)
    (known : ∃ t ∈ w.tasks, t.moves = moves) :
    ∃ row, (Lookup.byName payload.type.messageType).direct w.store = .ok row ∧
      row.id = message.messageType := by
  obtain ⟨t, mem, rfl⟩ := known
  obtain ⟨row, told, same⟩ := made.messageType
  exact ⟨row, honest.told t mem _ _ told, same⟩

end Publisher.Identity
end MessageBus
