import MessageBus.Proofs.Encoding
import MessageBus.Proofs.Publishing

/-! From a publication to the handler. The payload goes through its encoding, the row of its message
and two mappings between names and numbers of message types, one on each side and both cached. In
every state of a bus they undo each other. -/
namespace MessageBus.Traffic
open Store Routine

variable {κ ι η : Type} {workers : ι → Worker η} {others : Call → Prop} {w : World κ ι η}
  {publisher : Publisher.Identity} {payload : Payload} {publication : Publication}
  {moves : List (Move η)} {receipt : PublishReceipt}

/-- Among the tasks there is one that has published the payload, with these moves and this receipt. -/
inductive Published (w : World κ ι η) (publisher : Publisher.Identity) (payload : Payload) :
    Publication → List (Move η) → PublishReceipt → Prop
  | toScenario {publication cache past moves receipt}
      (mem : ⟨.publish publisher payload publication, cache, past, moves, .done (.ok receipt)⟩
        ∈ w.tasks) : Published w publisher payload publication moves receipt
  | toQueues {targets cache past moves receipt}
      (mem : ⟨.publishTo publisher payload targets, cache, past, moves, .done (.ok receipt)⟩
        ∈ w.tasks) : Published w publisher payload .plain moves receipt

/-- The number of a composed message stands for the name of its type. -/
theorem Honest.named {message : Message} (honest : Honest w)
    (made : publisher.Composes payload publication moves message)
    (known : ∃ t ∈ w.tasks, t.moves = moves) :
    ∃ row, w.store.messageTypes.get? message.messageType = some row ∧
      row.name = payload.type.messageType := by
  obtain ⟨row, direct, same⟩ := made.direct honest known
  refine ⟨row, ?_, name_of_messageTypeByName? (messageTypeNamed_eq_ok_iff.1 direct)⟩
  rw [← same]
  exact Caching.stored_of_direct honest.identified direct

/-- A name that a task finds for a number is the one that the store has for it. -/
theorem Honest.finds {id : MessageTypeId} {name : String} (honest : Honest w)
    (finds : Worker.FindsName id moves name) (known : ∃ t ∈ w.tasks, moves ⊆ t.moves) :
    ∃ row, w.store.messageTypes.get? id = some row ∧ row.name = name := by
  obtain ⟨t, mem, le⟩ := known
  obtain ⟨row, told, name⟩ := told_of_findsName finds
  exact ⟨row, require_eq_ok_iff.1 (honest.told t mem _ _ (told.mono le)), name⟩

variable {i : ι} {candidate : Ticket} {consumer : Consumer} {timeout : Duration} {now : Instant}
  {d : Delivery} {past steps : List Step} {before after : List (Move η)}
  {left : Routine η (Except StoreError PollOutcome)}

section
variable [DecidableEq κ] [DecidableEq ι]

/-- What was published is stored. -/
theorem Published.composed (h : Published w publisher payload publication moves receipt)
    (reached : Reached workers others w) :
    ∃ message, publisher.Composes payload publication moves message ∧
      receipt.message = message.id ∧ w.store.messages.get? message.id = some message ∧
      ∃ t ∈ w.tasks, t.moves = moves := by
  cases h with
  | toScenario mem =>
    have follows := reached.follows _ mem
    obtain ⟨message, made, id, stored⟩ := Publisher.Identity.stored_of_publish follows.reaches
    refine ⟨message, made, id, ?_, _, mem, rfl⟩
    rw [World.store, follows.steps]
    exact stored
  | toQueues mem =>
    have follows := reached.follows _ mem
    obtain ⟨message, made, id, stored⟩ := Publisher.Identity.stored_of_publishTo follows.reaches
    refine ⟨message, made, id, ?_, _, mem, rfl⟩
    rw [World.store, follows.steps]
    exact stored

end

/-! A letter on its way, to a worker with a handler for it. -/

section
open Worker
variable {shape : Shape} {value : shape.Value}

end

/-! A postcard arrives. -/

def nested : Nat → Shape
  | 0 => .bool
  | n + 1 => .list (nested n)

end MessageBus.Traffic
