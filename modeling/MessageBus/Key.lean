import MessageBus.Error
import MessageBus.Uuid

/-! The keys of rows. Most rows are named by a unique identifier, and the kind of row is part of the
key's type; jobs and message types have small numbers that the store gives out. -/
namespace MessageBus

/-- The kinds of rows that a unique identifier names. -/
inductive RowKind where
  | host
  | hostRuntime
  | scenario
  | publisher
  | publisherInstance
  | subscriber
  | subscriberInstance
  | jobInstance
  | message
  | ticket
  | log
  deriving DecidableEq, Repr

/-- The name of the key of such a row. -/
def RowKind.keyName : RowKind → String
  | host => "HostId"
  | hostRuntime => "HostRuntimeId"
  | scenario => "ScenarioId"
  | publisher => "PublisherId"
  | publisherInstance => "PublisherInstanceId"
  | subscriber => "SubscriberId"
  | subscriberInstance => "SubscriberInstanceId"
  | jobInstance => "JobInstanceId"
  | message => "MessageId"
  | ticket => "TicketId"
  | log => "LogId"

def RowKind.all : List RowKind :=
  [host, hostRuntime, scenario, publisher, publisherInstance, subscriber, subscriberInstance,
    jobInstance, message, ticket, log]

def RowKind.ofKeyName? (name : String) : Option RowKind :=
  RowKind.all.find? fun kind => kind.keyName == name

@[simp] theorem RowKind.ofKeyName?_keyName (kind : RowKind) :
    RowKind.ofKeyName? kind.keyName = some kind := by
  cases kind <;> decide

structure Key (kind : RowKind) where
  uuid : Uuid
  deriving DecidableEq

/-- One deployment of the bus, the same across restarts. -/
abbrev HostId := Key .host

/-- One running process of a host. -/
abbrev HostRuntimeId := Key .hostRuntime

abbrev ScenarioId := Key .scenario
abbrev PublisherId := Key .publisher
abbrev PublisherInstanceId := Key .publisherInstance
abbrev SubscriberId := Key .subscriber
abbrev SubscriberInstanceId := Key .subscriberInstance
abbrev JobInstanceId := Key .jobInstance
abbrev MessageId := Key .message
abbrev TicketId := Key .ticket
abbrev LogId := Key .log

namespace Key
variable {kind : RowKind}

instance : Inhabited (Key kind) := ⟨⟨default⟩⟩

instance : ToString (Key kind) := ⟨fun k => toString k.uuid⟩

instance : Shown (Key kind) := ⟨fun k => s!"{kind.keyName}({k})"⟩

/-- A text that is no identifier is refused under the key's name. -/
def ofText (kind : RowKind) (s : String) : Except DomainError (Key kind) :=
  match Uuid.ofText s with
  | .ok u => .ok ⟨u⟩
  | .error e => .error (.invalidId s!"{kind.keyName}: {e.message}")

end Key

/-- The number of a job. -/
structure JobId where
  value : Int32
  deriving DecidableEq, Inhabited

/-- The number of a message type. -/
structure MessageTypeId where
  value : Int32
  deriving DecidableEq, Inhabited

instance : ToString JobId := ⟨fun i => toString i.value.toInt⟩
instance : ToString MessageTypeId := ⟨fun i => toString i.value.toInt⟩
instance : Shown JobId := ⟨fun i => s!"JobId({i})"⟩
instance : Shown MessageTypeId := ⟨fun i => s!"MessageTypeId({i})"⟩

/-- Changes with every successful claim or commit of a ticket. A conditional write goes through only
under the token that its caller saw last. -/
structure ConcurrencyToken where
  uuid : Uuid
  deriving DecidableEq, Inhabited

instance : ToString ConcurrencyToken := ⟨fun t => toString t.uuid⟩
instance : Shown ConcurrencyToken := ⟨fun t => s!"ConcurrencyToken({t})"⟩

end MessageBus
