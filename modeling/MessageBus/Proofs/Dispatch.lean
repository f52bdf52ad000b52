import MessageBus.Proofs.Handling
import MessageBus.Proofs.Surroundings

/-! Handlers and the names under which they are registered. A registry is filled call by call; the
first handler of a name keeps it, and so every delivery is given to the first handler of its message
type, with data of the payload that was registered together with it. -/
namespace MessageBus
open Routine

/-- Data that are no value of a payload are reported with the name of its type. -/
theorem Serializer.decode_eq_error {s : Serializer} {type : PayloadType} {data : Bytes}
    {e : SerializerError} (unread : s.decode type data = .error e) :
    ∃ reason, e = .deserialize type.typeName reason := by
  unfold decode at unread
  split at unread
  · cases unread
    exact ⟨_, rfl⟩
  · next j _ =>
    cases value : type.shape.decode j with
    | ok value =>
      rw [value] at unread
      cases unread
    | error misfit =>
      rw [value] at unread
      cases unread
      exact ⟨_, rfl⟩

namespace Registry
variable {η : Type}

/-- What some registrations make of a registry, whether it is changed in place or a changed one is
handed back. A call that is refused leaves it as it was. -/
def registerAll (r : Registry η) : List (PayloadType × η) → Registry η
  | [] => r
  | (type, handler) :: rest =>
    match r.register type handler with
    | .ok next => next.registerAll rest
    | .error _ => r.registerAll rest

/-- Has a delivery handled by the handler to which it is routed, once. A handler may break off. -/
def dispatch (r : Registry η) (raw : RawDelivery) :
    Routine η (Except DispatchError (Except HandlerPanic HandlerResult)) :=
  match r.route raw with
  | .error e => return .error e
  | .ok (handler, envelope) => do
    let answer ← ask (.handle handler envelope)
    return .ok answer

theorem register_of_handled {r : Registry η} {type : PayloadType}
    (known : r.handles type.messageType = true) (handler : η) :
    r.register type handler = .error ⟨type.messageType⟩ := if_pos known

theorem register_of_new {r : Registry η} {type : PayloadType}
    (new : r.handles type.messageType = false) (handler : η) :
    r.register type handler = .ok { r with handlers := r.handlers ++ [(type, handler)] } :=
  if_neg (by simp [new])

theorem registerAll_append (r : Registry η) (calls more : List (PayloadType × η)) :
    r.registerAll (calls ++ more) = (r.registerAll calls).registerAll more := by
  induction calls generalizing r with
  | nil => rfl
  | cons call calls ih =>
    rw [List.cons_append, registerAll, registerAll]
    split
    · exact ih _
    · exact ih r

/-- A refused call has not changed what comes after it, and one that is not adds its handler. -/
theorem registerAll_cons (r : Registry η) (type : PayloadType) (handler : η)
    (rest : List (PayloadType × η)) :
    r.registerAll ((type, handler) :: rest) =
      if r.handles type.messageType then r.registerAll rest
      else { r with
        handlers := r.handlers ++ [(type, handler)] : Registry η }.registerAll rest := by
  cases known : r.handles type.messageType with
  | true => rw [registerAll, register_of_handled known, if_pos rfl]
  | false =>
    rw [registerAll, register_of_new known, if_neg Bool.false_ne_true]

theorem serializer_registerAll (r : Registry η) (calls : List (PayloadType × η)) :
    (r.registerAll calls).serializer = r.serializer := by
  induction calls generalizing r with
  | nil => rfl
  | cons call rest ih =>
    rw [registerAll_cons]
    split
    · exact ih r
    · exact ih _

/-- The handler of a name is the one that was there, or else the first that is registered. -/
theorem find?_registerAll (r : Registry η) (calls : List (PayloadType × η)) (name : String) :
    (r.registerAll calls).find? name =
      (r.find? name).or (calls.find? fun call => call.1.messageType == name) := by
  induction calls generalizing r with
  | nil => exact Option.or_none.symm
  | cons call rest ih =>
    obtain ⟨type, handler⟩ := call
    rw [registerAll_cons, List.find?_cons]
    cases same : type.messageType == name with
    | false =>
      split
      · exact ih r
      · rw [ih]
        simp [find?, List.find?_append, same]
    | true =>
      cases beq_iff_eq.1 same
      split
      · next known =>
        obtain ⟨first, found⟩ := Option.isSome_iff_exists.1 known
        rw [ih, found, Option.some_or, Option.some_or]
      · rw [ih]
        simp [find?, List.find?_append]

theorem mem_messageTypes_iff (r : Registry η) (name : String) :
    name ∈ r.messageTypes ↔ r.handles name = true := by
  rw [messageTypes, (List.mergeSort_perm _ _).mem_iff, List.mem_map, handles, find?,
    List.find?_isSome]
  simp

/-- No name stands twice in a registry that was filled by registrations. -/
theorem nodup_registerAll (r : Registry η) (calls : List (PayloadType × η))
    (distinct : (r.handlers.map fun call => call.1.messageType).Nodup) :
    ((r.registerAll calls).handlers.map fun call => call.1.messageType).Nodup := by
  induction calls generalizing r with
  | nil => exact distinct
  | cons call rest ih =>
    obtain ⟨type, handler⟩ := call
    rw [registerAll_cons]
    split
    · exact ih r distinct
    · next new =>
      refine ih _ ?_
      rw [List.map_append, List.nodup_append]
      refine ⟨distinct, List.pairwise_singleton _ _, ?_⟩
      rintro name there _ here rfl
      rw [List.map_singleton, List.mem_singleton] at here
      subst here
      refine new ((mem_messageTypes_iff r _).1 ?_)
      exact (List.mergeSort_perm _ _).mem_iff.2 there

/-- Names that do not repeat are listed in strictly ascending order. -/
theorem ascending_messageTypes {r : Registry η}
    (distinct : (r.handlers.map fun call => call.1.messageType).Nodup) :
    r.messageTypes.Pairwise (· < ·) := by
  have trans (a b c : String) (ab : decide (a ≤ b) = true) (bc : decide (b ≤ c) = true) :
      decide (a ≤ c) = true :=
    decide_eq_true (String.le_trans (of_decide_eq_true ab) (of_decide_eq_true bc))
  have total (a b : String) : (decide (a ≤ b) || decide (b ≤ a)) = true := by
    rw [Bool.or_eq_true, decide_eq_true_iff, decide_eq_true_iff]
    exact String.le_total a b
  have sorted : r.messageTypes.Pairwise fun a b => decide (a ≤ b) = true :=
    List.pairwise_mergeSort trans total _
  have single : r.messageTypes.Nodup := (List.mergeSort_perm _ _).nodup_iff.2 distinct
  refine (sorted.and single).imp fun {a b} h => ?_
  exact Std.lt_of_le_of_ne (of_decide_eq_true h.1) h.2

/-- The ways that the dispatch of a delivery can go in a registry filled by some calls: what is
asked of handlers, with the answers, and what comes of it. -/
inductive Dispatched (serializer : Serializer) (calls : List (PayloadType × η))
    (raw : RawDelivery) :
    List (Exchange η) → Except DispatchError (Except HandlerPanic HandlerResult) → Prop
  | unknown (none : ∀ call ∈ calls, call.1.messageType ≠ raw.messageType) :
    Dispatched serializer calls raw [] (.error (.unknownType raw.messageType))
  | unread {type : PayloadType} {handler : η} {reason : String}
    (first : calls.find? (fun call => call.1.messageType == raw.messageType) =
      some (type, handler))
    (unread : serializer.decode type raw.data = .error (.deserialize type.typeName reason)) :
    Dispatched serializer calls raw [] (.error (.decode (.deserialize type.typeName reason)))
  | handled {type : PayloadType} {handler : η} {value : type.shape.Value}
    {answer : Except HandlerPanic HandlerResult}
    (first : calls.find? (fun call => call.1.messageType == raw.messageType) =
      some (type, handler))
    (read : serializer.decode type raw.data = .ok value) :
    Dispatched serializer calls raw
      [⟨.handle handler {
          ticket := raw.ticket
          message := raw.message
          previousMessage := raw.previousMessage
          created := raw.created
          isRecovery := raw.isRecovery
          retryCount := raw.retryCount
          snapshot := raw.snapshot
          payload := ⟨type, value⟩ }, answer⟩]
      (.ok answer)

theorem dispatch_iff (serializer : Serializer) (calls : List (PayloadType × η))
    (raw : RawDelivery) (said : List (Exchange η))
    (outcome : Except DispatchError (Except HandlerPanic HandlerResult)) :
    Ends (((empty serializer).registerAll calls).dispatch raw) said outcome ↔
      Dispatched serializer calls raw said outcome := by
  have first : ((empty serializer).registerAll calls).find? raw.messageType =
      calls.find? fun call => call.1.messageType == raw.messageType :=
    find?_registerAll (empty serializer) calls raw.messageType
  have reads : ((empty serializer).registerAll calls).serializer = serializer :=
    serializer_registerAll _ calls
  unfold dispatch route
  rw [first, reads]
  constructor
  · intro ends
    cases found : calls.find? fun call => call.1.messageType == raw.messageType with
    | none =>
      rw [found] at ends
      obtain ⟨rfl, rfl⟩ := ends_pure_iff.1 ends
      exact .unknown fun call mem => by simpa using List.find?_eq_none.1 found call mem
    | some call =>
      obtain ⟨type, handler⟩ := call
      rw [found] at ends
      dsimp only at ends
      cases decoded : serializer.decode type raw.data with
      | error e =>
        rw [decoded] at ends
        obtain ⟨rfl, rfl⟩ := ends_pure_iff.1 ends
        obtain ⟨reason, rfl⟩ := Serializer.decode_eq_error decoded
        exact .unread found decoded
      | ok value =>
        rw [decoded] at ends
        obtain ⟨answer, rest, rfl, done⟩ := ends_ask_bind_iff.1 ends
        obtain ⟨rfl, rfl⟩ := ends_pure_iff.1 done
        exact .handled found decoded
  · intro h
    cases h with
    | unknown none =>
      rw [List.find?_eq_none.2 fun call mem => by simpa using none call mem]
      exact ends_pure_iff.2 ⟨rfl, rfl⟩
    | unread found decoded =>
      rw [found]
      dsimp only
      rw [decoded]
      exact ends_pure_iff.2 ⟨rfl, rfl⟩
    | handled found decoded =>
      rw [found]
      dsimp only
      rw [decoded]
      exact ends_ask_bind_iff.2 ⟨_, [], rfl, ends_pure_iff.2 ⟨rfl, rfl⟩⟩

end Registry

namespace Worker
variable {η : Type}

/-- What a worker makes of a dispatch. -/
def settled : Except DispatchError (Except HandlerPanic HandlerResult) → HandlerResult
  | .error e => .failed e.message
  | .ok (.error panic) => .failed s!"handler panicked: {panic.message}"
  | .ok (.ok result) => result

/-- A worker dispatches by its registry, and takes all that goes wrong for a failure. -/
theorem dispatch_eq (w : Worker η) (raw : RawDelivery) :
    w.dispatch raw = settled <$> w.registry.dispatch raw := by
  unfold dispatch Registry.dispatch
  cases w.registry.route raw with
  | error e =>
    dsimp only
    rw [map_pure]
    rfl
  | ok routed =>
    dsimp only
    rw [map_bind]
    refine bind_congr fun answer => ?_
    rw [map_pure]
    cases answer <;> rfl

end Worker

namespace Registry
variable {η : Type}

/-- Whatever is registered, refused calls included, each name is listed once, its first handler
keeps it, and a later one is refused. A delivery is given to the first handler of its message type,
once and to no other, if its data are a value of the payload registered with it; if they are not, or
there is no handler, then nothing is asked of any. Workers dispatch in this way. -/
theorem dispatch_runs_first_registered (serializer : Serializer)
    (calls : List (PayloadType × η)) :
    let r := (empty serializer).registerAll calls
    r.messageTypes.Pairwise (· < ·) ∧
    (∀ name, name ∈ r.messageTypes ↔ ∃ call ∈ calls, call.1.messageType = name) ∧
    (∀ type handler,
      if type.messageType ∈ r.messageTypes then
        r.register type handler = .error ⟨type.messageType⟩ ∧
          (empty serializer).registerAll (calls ++ [(type, handler)]) = r
      else ∃ next, r.register type handler = .ok next ∧
        (empty serializer).registerAll (calls ++ [(type, handler)]) = next) ∧
    (∀ raw said outcome,
      Ends (r.dispatch raw) said outcome ↔ Dispatched serializer calls raw said outcome) ∧
    ∀ (w : Worker η) (raw : RawDelivery),
      { w with registry := r }.dispatch raw = Worker.settled <$> r.dispatch raw := by
  intro r
  have distinct := nodup_registerAll (empty serializer) calls List.nodup_nil
  refine ⟨ascending_messageTypes distinct, fun name => ?_, fun type handler => ?_,
    dispatch_iff serializer calls, fun w raw => Worker.dispatch_eq _ raw⟩
  · rw [mem_messageTypes_iff, handles, find?_registerAll, empty, find?, List.find?_nil,
      Option.none_or, List.find?_isSome]
    simp only [beq_iff_eq, Prod.exists]
  · rw [registerAll_append]
    split
    · next known =>
      have known := (mem_messageTypes_iff r _).1 known
      exact ⟨register_of_handled known handler, by rw [registerAll_cons, if_pos known]; rfl⟩
    · next new =>
      have new := Bool.eq_false_iff.2 fun known => new ((mem_messageTypes_iff r _).2 known)
      exact ⟨_, register_of_new new handler, by rw [registerAll, register_of_new new]; rfl⟩

end Registry
end MessageBus
