import MessageBus.Startup.Registration

/-! Properties of a registration as a whole. A property that results and errors have, and that
sequences keep, comes to the registration of a plan from the single writes and look-ups that the
registration is made of. -/
namespace MessageBus.StartupPlan

variable {n : Type → Type} [Monad n]

/-- The message type of a name, which must be in the catalog. -/
def findType (r : Registrar (ExceptT StoreError n)) (name : String) :
    ExceptT StoreError n MessageType := do
  match ← r.messageTypeByName name with
  | some found => pure found
  | none => throw (.notFound "message type" name)

theorem resolveType_of_known {r : Registrar (ExceptT StoreError n)} {known : KnownTypes}
    {name : String} {id : MessageTypeId} (h : known.lookup name = some id) :
    resolveType r known name = pure (id, known) := by
  rw [resolveType, h]

theorem resolveType_of_unknown [LawfulMonad n] {r : Registrar (ExceptT StoreError n)}
    {known : KnownTypes} {name : String} (h : known.lookup name = none) :
    resolveType r known name =
      findType r name >>= fun found => pure (found.id, (found.name, found.id) :: known) := by
  rw [resolveType, h, findType, bind_assoc]
  refine bind_congr fun found => ?_
  cases found with
  | some row => rw [pure_bind]
  | none => exact ExceptT.ext (by simp only [ExceptT.run_throw, ExceptT.run_bind, pure_bind])

/-- A property of registrations that results and errors have, sequences keep, and every write and
look-up of the registrar has. -/
structure Inherited (P : (α : Type) → ExceptT StoreError n α → Prop)
    (r : Registrar (ExceptT StoreError n)) : Prop where
  done : ∀ {α : Type} (a : α), P α (pure a)
  failed : ∀ {α : Type} (e : StoreError), P α (throw e)
  andThen : ∀ {α β : Type} {m : ExceptT StoreError n α} {f : α → ExceptT StoreError n β},
    P α m → (∀ a, P β (f a)) → P β (m >>= f)
  host : ∀ host, P Host (r.host host)
  hostRuntime : ∀ runtime, P Unit (r.hostRuntime runtime)
  scenario : ∀ scenario, P Scenario (r.scenario scenario)
  messageType : ∀ spec, P MessageType (r.messageType spec)
  findType : ∀ name, P MessageType (findType r name)
  publisher : ∀ row, P Publisher (r.publisher row)
  subscriber : ∀ row, P Subscriber (r.subscriber row)
  job : ∀ row, P Job (r.job row)
  start : ∀ record, P Unit (r.start record)

namespace Inherited
variable {P : (α : Type) → ExceptT StoreError n α → Prop} {r : Registrar (ExceptT StoreError n)}
variable (i : Inherited P r)
include i

theorem ofExcept {α : Type} (outcome : Except StoreError α) :
    P α (MonadExcept.ofExcept outcome) := by
  cases outcome with
  | error e => exact i.failed e
  | ok a => exact i.done a

theorem resolveType [LawfulMonad n] (known : KnownTypes) (name : String) :
    P _ (resolveType r known name) := by
  cases seen : known.lookup name with
  | some id =>
    rw [resolveType_of_known seen]
    exact i.done _
  | none =>
    rw [resolveType_of_unknown seen]
    exact i.andThen (i.findType name) fun _ => i.done _

theorem resolveType? [LawfulMonad n] (known : KnownTypes) (name : Option String) :
    P _ (resolveType? r known name) := by
  cases name with
  | none => exact i.done _
  | some name => exact i.andThen (i.resolveType known name) fun _ => i.done _

theorem registerTypes (known : KnownTypes) (specs : List MessageTypeSpec) :
    P _ (registerTypes r known specs) := by
  induction specs generalizing known with
  | nil => exact i.done _
  | cons spec specs ih =>
    exact i.andThen (i.messageType spec) fun row => i.andThen (ih _) fun _ => i.done _

variable [LawfulMonad n]

theorem registerPublishers (scenario : ScenarioId) (known : KnownTypes)
    (specs : List PublisherSpec) : P _ (registerPublishers r scenario known specs) := by
  induction specs generalizing known with
  | nil => exact i.done _
  | cons spec specs ih =>
    refine i.andThen (i.resolveType known _) fun _ => ?_
    exact i.andThen (i.publisher _) fun _ => i.andThen (ih _) fun _ => i.done _

theorem registerSubscribers (scenario : ScenarioId) (known : KnownTypes)
    (specs : List SubscriberSpec) : P _ (registerSubscribers r scenario known specs) := by
  induction specs generalizing known with
  | nil => exact i.done _
  | cons spec specs ih =>
    refine i.andThen (i.resolveType known _) fun _ => ?_
    exact i.andThen (i.subscriber _) fun _ => i.andThen (ih _) fun _ => i.done _

theorem registerJobs (scenario : ScenarioId) (known : KnownTypes) (specs : List JobSpec) :
    P _ (registerJobs r scenario known specs) := by
  induction specs generalizing known with
  | nil => exact i.done _
  | cons spec specs ih =>
    refine i.andThen (i.resolveType? known _) fun _ => ?_
    exact i.andThen (i.job _) fun _ => i.andThen (ih _) fun _ => i.done _

omit [LawfulMonad n] in
theorem startInstances (record : PlannedInstance → Except StoreError InstanceRecord)
    (planned : List PlannedInstance) : P _ (startInstances r record planned) := by
  induction planned with
  | nil => exact i.done _
  | cons one planned ih =>
    refine i.andThen (i.ofExcept _) fun row => ?_
    exact i.andThen (i.start row) fun _ => i.andThen ih fun _ => i.done _

theorem carryOut (plan : StartupPlan) (now : Instant) : P _ (plan.carryOut r now) := by
  unfold StartupPlan.carryOut
  refine i.andThen (i.host _) fun host => ?_
  refine i.andThen (i.hostRuntime _) fun _ => ?_
  refine i.andThen (i.scenario _) fun scenario => ?_
  refine i.andThen (i.registerTypes _ _) fun _ => ?_
  refine i.andThen (i.registerPublishers _ _ _) fun _ => ?_
  refine i.andThen (i.registerSubscribers _ _ _) fun _ => ?_
  refine i.andThen (i.registerJobs _ _ _) fun _ => ?_
  exact i.andThen (i.startInstances _ _) fun _ => i.done _

end Inherited
end MessageBus.StartupPlan
