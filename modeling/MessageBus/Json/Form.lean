import MessageBus.Json.Value
import MessageBus.Key
import MessageBus.Lifecycle
import MessageBus.Ticket.Policy
import MessageBus.Time.Timestamp

/-! The data form of values. A record is an object with a member for each field, or an array of its
fields in order; a choice is its name, or an object with the name as its only key. -/
namespace MessageBus

class JsonForm (α : Type) where
  toJson : α → Json
  ofJson? : Json → Option α

export JsonForm (toJson ofJson?)

namespace Json

/-- The fields of a record. A member that is missing counts as null, members of other names are
ignored, and an array must have exactly the fields. -/
def fields? (names : List String) : Json → Option (List Json)
  | object members => some (names.map fun name => (members.lookup name).getD null)
  | array items => if items.length = names.length then some items else none
  | _ => none

/-- The name of a choice, and what it carries. -/
def choice? : Json → Option (String × Option Json)
  | string name => some (name, none)
  | object [(name, value)] => some (name, some value)
  | _ => none

/-- The name of a choice that carries nothing. -/
def plainChoice? (j : Json) : Option String :=
  match choice? j with
  | some (name, none) | some (name, some null) => some name
  | _ => none

/-- The fields of a record that must be an object. -/
def memberFields? (names : List String) : Json → Option (List Json)
  | object members => fields? names (object members)
  | _ => none

/-- A whole number within bounds. -/
def intBetween? (least greatest : Int) : Json → Option Int
  | number (.int n) => if least ≤ n ∧ n ≤ greatest then some n else none
  | _ => none

def natBelow? (bound : Nat) (j : Json) : Option Nat :=
  (intBetween? 0 (bound - 1) j).map Int.toNat

end Json

namespace JsonForm

instance : JsonForm Bool where
  toJson := .bool
  ofJson?
    | .bool b => some b
    | _ => none

instance : JsonForm String where
  toJson := .string
  ofJson?
    | .string s => some s
    | _ => none

instance : JsonForm UInt32 where
  toJson n := .nat n.toNat
  ofJson? j := (j.natBelow? UInt32.size).map Nat.toUInt32

instance : JsonForm UInt8 where
  toJson n := .nat n.toNat
  ofJson? j := (j.natBelow? UInt8.size).map Nat.toUInt8

instance : JsonForm Int32 where
  toJson n := .int n.toInt
  ofJson? j := (j.intBetween? Int32.minValue.toInt Int32.maxValue.toInt).map Int32.ofInt

/-- A whole number is also read as a floating point number. -/
instance : JsonForm Number.Double where
  toJson x := .number (.double x)
  ofJson?
    | .number (.double x) => some x
    | .number (.int n) =>
      let x := Number.nearestFloat n.natAbs
      some (.ofFloat (if n < 0 then -x else x))
    | _ => none

instance {α : Type} [JsonForm α] : JsonForm (Option α) where
  toJson
    | none => .null
    | some a => toJson a
  ofJson?
    | .null => some none
    | j => (ofJson? j).map some

instance {α : Type} [JsonForm α] : JsonForm (List α) where
  toJson as := .array (as.map toJson)
  ofJson?
    | .array items => items.mapM ofJson?
    | _ => none

instance : JsonForm Uuid where
  toJson u := .string (toString u)
  ofJson?
    | .string s => (Uuid.ofText s).toOption
    | _ => none

instance {kind : RowKind} : JsonForm (Key kind) where
  toJson k := toJson k.uuid
  ofJson? j := (ofJson? j).map Key.mk

instance : JsonForm JobId where
  toJson i := toJson i.value
  ofJson? j := (ofJson? j).map JobId.mk

instance : JsonForm MessageTypeId where
  toJson i := toJson i.value
  ofJson? j := (ofJson? j).map MessageTypeId.mk

instance : JsonForm ConcurrencyToken where
  toJson t := toJson t.uuid
  ofJson? j := (ofJson? j).map ConcurrencyToken.mk

instance : JsonForm Instant where
  toJson t := .string (toString t)
  ofJson?
    | .string s => Instant.ofText? s
    | _ => none

/-- Both parts must be there, and an object must have nothing else. -/
instance : JsonForm Duration where
  toJson d := .ofMembers [("secs", .nat d.secs), ("nanos", .nat d.fraction)]
  ofJson? j := do
    if let .object members := j then
      guard (members.all fun (name, _) => name == "secs" || name == "nanos")
    let [secs, nanos] ← j.fields? ["secs", "nanos"] | none
    Duration.ofParts? (← secs.natBelow? UInt64.size) (← nanos.natBelow? UInt32.size)

instance : JsonForm TicketState where
  toJson s := .string s.label
  ofJson? j := j.plainChoice?.bind TicketState.ofLabel?

instance : JsonForm ComponentState where
  toJson s := .string s.label
  ofJson? j := j.plainChoice?.bind ComponentState.ofLabel?

instance : JsonForm LogLevel where
  toJson l := .string l.label
  ofJson? j := j.plainChoice?.bind LogLevel.ofLabel?

instance : JsonForm BackoffStrategy where
  toJson
    | .fixed => .string "fixed"
    | .exponential => .string "exponential"
    | .linear => .string "linear"
  ofJson? j := do
    match ← j.plainChoice? with
    | "fixed" => some .fixed
    | "exponential" => some .exponential
    | "linear" => some .linear
    | _ => none

instance : JsonForm BackoffPolicy where
  toJson p := .ofMembers
    [("base_delay", toJson p.baseDelay), ("max_delay", toJson p.maxDelay),
      ("strategy", toJson p.strategy), ("jitter", toJson p.jitter)]
  ofJson? j := do
    let [base, greatest, strategy, jitter] ←
      j.fields? ["base_delay", "max_delay", "strategy", "jitter"] | none
    return ⟨← ofJson? base, ← ofJson? greatest, ← ofJson? strategy, ← ofJson? jitter⟩

instance : JsonForm DeliveryPolicy where
  toJson p := .ofMembers
    [("fifo", toJson p.fifo), ("processing_timeout", toJson p.processingTimeout),
      ("max_retry", toJson p.maxRetry)]
  ofJson? j := do
    let [fifo, timeout, maxRetry] ← j.fields? ["fifo", "processing_timeout", "max_retry"] | none
    return ⟨← ofJson? fifo, ← ofJson? timeout, ← ofJson? maxRetry⟩

end JsonForm
end MessageBus
