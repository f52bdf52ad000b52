import Mathlib.Data.List.Nodup
import MessageBus.Proofs.Conservation
import MessageBus.Proofs.Publishing

/-! A publication goes to the queues that are interested in it. They are found from two tables without
an order, and come in the order of their identifiers. While nobody else writes, the store at the end of
a publication is the one of its beginning with one message and one ticket for each of these queues, or
that store itself. -/
namespace MessageBus

namespace Store
variable {s t : Store} {scenario : ScenarioId} {messageType : MessageTypeId}

/-! The queues of a publication. -/

/-- In this scenario the queue takes messages of the type. -/
inductive Interested (s : Store) (scenario : ScenarioId) (messageType : MessageTypeId) :
    QueueRef → Prop
  | subscriber {id row} (stored : s.subscribers.get? id = some row)
      (same : row.scenario = scenario) (takes : row.messageType = messageType) :
      Interested s scenario messageType (.subscriber id)
  | job {id row} (stored : s.jobs.get? id = some row) (same : row.scenario = scenario)
      (takes : row.messageType = some messageType) : Interested s scenario messageType (.job id)

theorem Interested.hasQueue {queue : QueueRef} (h : Interested s scenario messageType queue) :
    s.hasQueue queue = true := by
  cases h with
  | subscriber stored => exact (Table.contains_iff _ _).2 ⟨_, stored⟩
  | job stored => exact (Table.contains_iff _ _).2 ⟨_, stored⟩

/-- Subscribers by ascending identifier, and then jobs by ascending number. -/
def Ascending (queues : List QueueRef) : Prop :=
  ∃ (subscribers : List SubscriberId) (jobs : List JobId),
    queues = subscribers.map .subscriber ++ jobs.map .job ∧
    subscribers.Pairwise (fun a b => a.uuid < b.uuid) ∧ jobs.Pairwise fun a b => a.value < b.value

theorem Ascending.nodup {queues : List QueueRef} (h : Ascending queues) : queues.Nodup := by
  obtain ⟨subscribers, jobs, rfl, first, second⟩ := h
  refine List.nodup_append.2 ⟨?_, ?_, ?_⟩
  · refine (List.pairwise_map.2 (first.imp fun {a b} below same => ?_))
    cases same
    exact Nat.lt_irrefl _ below
  · refine (List.pairwise_map.2 (second.imp fun {a b} below same => ?_))
    cases same
    exact Int32.lt_irrefl below
  · rintro _ subscriber _ job rfl
    obtain ⟨a, -, rfl⟩ := List.mem_map.1 subscriber
    obtain ⟨b, -, is⟩ := List.mem_map.1 job
    cases is

end Store

/-! What a routine asks at most once. -/

namespace Routine
open Store
variable {η α β : Type}

/-- The routine makes no second request of this kind. -/
def AsksOnce (kind : Request η → Bool) : Routine η α → Prop
  | Program.done _ => True
  | Program.ask request next =>
    (kind request = true → ∀ answer, Avoids kind (next answer)) ∧
      ∀ answer, AsksOnce kind (next answer)

namespace AsksOnce
variable {kind : Request η → Bool}

theorem of_avoids {routine : Routine η α} (h : Avoids kind routine) : AsksOnce kind routine := by
  induction routine with
  | done a => trivial
  | ask request next ih => exact ⟨fun _ => h.2, fun answer => ih answer (h.2 answer)⟩

theorem ask (request : Request η) : AsksOnce kind (Routine.ask request) :=
  ⟨fun _ _ => trivial, fun _ => trivial⟩

theorem andThen_avoids {routine : Routine η β} {f : β → Routine η α} (h : AsksOnce kind routine)
    (k : ∀ b, Avoids kind (f b)) : AsksOnce kind (routine.andThen f) := by
  induction routine with
  | done b => exact of_avoids (k b)
  | ask request next ih =>
    exact ⟨fun same answer => (h.1 same answer).andThen k, fun answer => ih answer (h.2 answer)⟩

theorem bind_avoids {routine : StoreRoutine η β} {f : β → StoreRoutine η α}
    (h : AsksOnce kind routine.run) (k : ∀ b, Avoids kind (f b).run) :
    AsksOnce kind (routine >>= f).run := by
  refine h.andThen_avoids fun b => ?_
  cases b with
  | ok b => exact k b
  | error e => trivial

theorem avoids_andThen {routine : Routine η β} {f : β → Routine η α} (h : Avoids kind routine)
    (k : ∀ b, AsksOnce kind (f b)) : AsksOnce kind (routine.andThen f) := by
  induction routine with
  | done b => exact k b
  | ask request next ih =>
    refine ⟨fun same => ?_, fun answer => ih answer (h.2 answer)⟩
    rw [h.1] at same
    cases same

theorem avoids_bind {routine : StoreRoutine η β} {f : β → StoreRoutine η α}
    (h : Avoids kind routine.run) (k : ∀ b, AsksOnce kind (f b).run) :
    AsksOnce kind (routine >>= f).run := by
  refine avoids_andThen h fun b => ?_
  cases b with
  | ok b => exact k b
  | error e => trivial

/-- Two requests of the kind are one, and have one answer. -/
theorem same {routine left : Routine η α} {s : Store} {moves : List (Move η)}
    (h : AsksOnce kind routine) (reached : Reaches routine s moves left) {request : Request η}
    {steps more : List Step} {answer other : request.Answer} (wanted : kind request = true)
    (first : .own request steps answer ∈ moves) (second : .own request more other ∈ moves) :
    answer = other := by
  induction reached with
  | here => cases first
  | other step _ ih =>
    refine ih h ?_ ?_
    · exact (List.mem_cons.1 first).resolve_left nofun
    · exact (List.mem_cons.1 second).resolve_left nofun
  | @own asked given next _ _ _ moves _ rest ih =>
    -- After a request of the kind there is none any more.
    have last (same : kind asked = true) {steps : List Step} {answer : request.Answer} :
        .own request steps answer ∉ moves := by
      intro mem
      have none := (rest.avoids (h.1 same given)).2
      have asks : request ∈ requestsOf moves := List.mem_filterMap.2 ⟨_, mem, rfl⟩
      exact List.filter_eq_nil_iff.1 none request asks wanted
    rcases List.mem_cons.1 first with is | early
    · cases is
      rcases List.mem_cons.1 second with is | late
      · cases is
        rfl
      · exact absurd late (last wanted)
    · rcases List.mem_cons.1 second with is | late
      · cases is
        exact absurd early (last wanted)
      · exact ih (h.2 given) early late

end AsksOnce

end Routine

def Request.isFreshMessage {η : Type} : Request η → Bool
  | .freshMessage => true
  | _ => false

namespace Traffic
open Store Routine
variable {η α : Type} {s : Store} {moves : List (Move η)}

/-! A routine that nobody disturbs. -/

/-- What others call meanwhile changes nothing. -/
def Undisturbed : Store → List (Move η) → Prop
  | _, [] => True
  | s, .other step :: moves => s.after step = s ∧ Undisturbed s moves
  | s, .own _ steps _ :: moves => Undisturbed (s.run steps) moves

namespace Undisturbed

theorem others {steps : List Step} (h : Undisturbed s (steps.map (.other : Step → Move η))) :
    s.run steps = s := by
  induction steps with
  | nil => rfl
  | cons step steps ih =>
    rw [run_cons, h.1]
    exact ih h.2

theorem split {first rest : List (Move η)} (h : Undisturbed s (first ++ rest)) :
    Undisturbed s first ∧ Undisturbed (s.run (stepsOf first)) rest := by
  induction first generalizing s with
  | nil => exact ⟨trivial, h⟩
  | cons move first ih =>
    cases move with
    | other step =>
      obtain ⟨early, late⟩ := ih h.2
      refine ⟨⟨h.1, early⟩, ?_⟩
      rw [stepsOf_cons, Move.steps, run_append, run_cons, h.1]
      exact late
    | own request steps answer =>
      rw [stepsOf_cons, run_append]
      exact ih h

end Undisturbed

end Traffic

namespace Publisher.Identity
open Store Routine Traffic
variable {η : Type} {self : Publisher.Identity} {payload : Payload} {publication : Publication}
  {s t : Store} {moves : List (Move η)} {result : Except StoreError PublishReceipt}

/-- It asks for at most one new identifier of a message. -/
theorem publish_asks_once (self : Publisher.Identity) (payload : Payload)
    (publication : Publication) : AsksOnce Request.isFreshMessage
      (self.publish payload publication : StoreRoutine η _).run := by
  have looks : Avoids Request.isFreshMessage
      ((Lookup.byName payload.type.messageType).routine : Routine η _) := by
    refine (lookup_avoids _).mono fun request asks => ?_
    cases request with
    | freshMessage => rfl
    | _ => cases asks
  have composes : AsksOnce Request.isFreshMessage
      (self.message payload publication : StoreRoutine η Message).run := by
    refine .avoids_bind looks fun row => ?_
    cases self.serializer.encode payload with
    | error e => trivial
    | ok data =>
      cases publication.id with
      | some id =>
        exact .of_avoids (.bind trivial fun _ => .bind (.lift (.ask rfl)) fun _ => trivial)
      | none =>
        exact .bind_avoids (.andThen_avoids (.ask _) fun _ => trivial) fun _ =>
          .bind (.lift (.ask rfl)) fun _ => trivial
  exact .bind_avoids composes fun message => .bind (.ask rfl) fun targets => .ask rfl

/-- Its message has one identifier. -/
theorem Names.unique {left : Routine η (Except StoreError PublishReceipt)} {a b : MessageId}
    (h : Reaches (self.publish payload publication).run s moves left)
    (first : Names publication moves a) (second : Names publication moves b) : a = b := by
  cases first with
  | given asked =>
    cases second with
    | given again => exact Option.some.inj (asked.symm.trans again)
    | new free => cases free.symm.trans asked
  | new free made =>
    cases second with
    | given asked => cases free.symm.trans asked
    | new _ again => exact (self.publish_asks_once payload publication).same h rfl made again

/-- How a publication comes to its end while nobody else writes. -/
inductive Course (self : Publisher.Identity) (payload : Payload) (publication : Publication)
    (s t : Store) (moves : List (Move η)) : Except StoreError PublishReceipt → Prop
  | unknown {e} (unknown : s.messageTypeByName? payload.type.messageType = none) (same : t = s) :
      Course self payload publication s t moves (.error e)
  | unencoded {e f} (fails : self.serializer.encode payload = .error f) (same : t = s) :
      Course self payload publication s t moves (.error e)
  | sent {message fresh before after result}
      (composed : self.Composes payload publication moves message)
      (steps : stepsOf moves = before ++ ⟨fresh, .publish message
        (s.resolveTargets self.scenario message.messageType)⟩ :: after)
      (unchanged : s.run before = s)
      (done : s.publish fresh message (s.resolveTargets self.scenario message.messageType) =
        (result, t)) : Course self payload publication s t moves result

end Publisher.Identity

namespace Traffic
open Store Routine
variable {κ ι η : Type} {workers : ι → Worker η} {others : Call → Prop} {w : World κ ι η}
  {publisher : Publisher.Identity} {payload : Payload} {publication : Publication}
  {s t : Store} {moves : List (Move η)}

section
variable {result : Except StoreError PublishReceipt}

variable [DecidableEq κ] [DecidableEq ι]

end

end Traffic
end MessageBus
