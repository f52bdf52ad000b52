import MessageBus.Log
import MessageBus.Snapshot
import MessageBus.Table
import MessageBus.Ticket

/-! The store of a bus that lives in memory: the catalog, the messages with their tickets, snapshots
and logs. An operation gives its result and the store after it. -/
namespace MessageBus

structure Store where
  hosts : Table HostId Host
  runtimes : Table HostRuntimeId HostRuntime
  scenarios : Table ScenarioId Scenario
  messageTypes : Table MessageTypeId MessageType
  publishers : Table PublisherId Publisher
  subscribers : Table SubscriberId Subscriber
  jobs : Table JobId Job
  publisherInstances : Table PublisherInstanceId PublisherInstance
  subscriberInstances : Table SubscriberInstanceId SubscriberInstance
  jobInstances : Table JobInstanceId JobInstance
  messages : Table MessageId Message
  tickets : Table TicketId Ticket
  snapshots : Table SnapshotIdentifier Snapshot
  /-- In the order in which they were written. -/
  logs : List LogRecord
  /-- The number given to the last new message type. -/
  lastMessageType : Int32
  /-- The number given to the last new job. -/
  lastJob : Int32

namespace Store

def empty : Store where
  hosts := .empty
  runtimes := .empty
  scenarios := .empty
  messageTypes := .empty
  publishers := .empty
  subscribers := .empty
  jobs := .empty
  publisherInstances := .empty
  subscriberInstances := .empty
  jobInstances := .empty
  messages := .empty
  tickets := .empty
  snapshots := .empty
  logs := []
  lastMessageType := 0
  lastJob := 0

instance : Inhabited Store := ⟨empty⟩

/-- The result of an operation, and the store that it leaves. -/
abbrev Result (α : Type) := Except StoreError α × Store

/-- The identifiers that one operation may give out. -/
structure Fresh where
  ticket : Nat → TicketId
  token : Nat → ConcurrencyToken

/-- An operation that changes the store only when it succeeds. -/
def attempt {α : Type} (s : Store) (outcome : Except StoreError (α × Store)) : Result α :=
  match outcome with
  | .ok (a, after) => (.ok a, after)
  | .error e => (.error e, s)

/-- An operation that only looks. -/
def look {α : Type} (s : Store) (a : α) : Result α := (.ok a, s)

@[simp] theorem attempt_ok {α : Type} (s after : Store) (a : α) :
    s.attempt (.ok (a, after)) = (.ok a, after) := rfl

@[simp] theorem attempt_error {α : Type} (s : Store) (e : StoreError) :
    s.attempt (.error e : Except StoreError (α × Store)) = (.error e, s) := rfl

theorem attempt_unchanged {α : Type} {s : Store} {outcome : Except StoreError (α × Store)}
    {e : StoreError} (h : (s.attempt outcome).1 = .error e) : (s.attempt outcome).2 = s := by
  match outcome with
  | .ok _ => simp [attempt] at h
  | .error _ => rfl

/-- The number after the one that was given out last. The sum is checked, as in every program that is
built for tests or development, which a store in memory is meant for: past the largest number there is
an overflow, and no number is given out again. -/
def nextNumber (last : Int32) : Except StoreError Int32 :=
  if last = Int32.maxValue then .error .overflow else .ok (last + 1)

theorem nextNumber_eq_ok_iff {last next : Int32} :
    nextNumber last = .ok next ↔ last ≠ Int32.maxValue ∧ last + 1 = next := by
  unfold nextNumber
  split <;> simp_all

/-- The row under a key, which must be there. -/
def require {κ α : Type} [DecidableEq κ] [ToString κ] (table : Table κ α) (entity : String)
    (key : κ) : Except StoreError α :=
  match table.get? key with
  | some row => .ok row
  | none => .error (.notFound entity (toString key))

theorem require_eq_ok_iff {κ α : Type} [DecidableEq κ] [ToString κ] {table : Table κ α}
    {entity : String} {key : κ} {row : α} :
    require table entity key = .ok row ↔ table.get? key = some row := by
  unfold require
  split <;> simp_all

def hasQueue (s : Store) : QueueRef → Bool
  | .subscriber id => s.subscribers.contains id
  | .job id => s.jobs.contains id

def messageTypeByName? (s : Store) (name : String) : Option MessageType :=
  s.messageTypes.values.find? fun t => t.name == name

def messageTypeNamed (s : Store) (name : String) : Except StoreError MessageType :=
  match s.messageTypeByName? name with
  | some row => .ok row
  | none => .error (.notFound "message type" name)

end Store
end MessageBus
