import MessageBus.Json.Description
import MessageBus.Payload.Shape

/-! Reading a payload from data, with the reason when the data do not fit its type. -/
namespace MessageBus.Shape

/-- Why data do not fit a type. -/
inductive Misfit where
  | wrongType (found expected : String)
  | wrongValue (found expected : String)
  | missingField (name : String)
  | unknownChoice (found : String) (known : List String)
  | wrongLength (found : Nat) (expected : String)
  deriving DecidableEq, Repr

/-- The names that would have been right. -/
def knownNames : List String → String
  | [] => "there are no variants"
  | [a] => s!"expected `{a}`"
  | [a, b] => s!"expected `{a}` or `{b}`"
  | names => "expected one of " ++ ", ".intercalate (names.map fun n => s!"`{n}`")

def Misfit.message : Misfit → String
  | wrongType found expected => s!"invalid type: {found}, expected {expected}"
  | wrongValue found expected => s!"invalid value: {found}, expected {expected}"
  | missingField name => s!"missing field `{name}`"
  | unknownChoice found known => s!"unknown variant `{found}`, {knownNames known}"
  | wrongLength found expected => s!"invalid length {found}, expected {expected}"

def recordName (name : String) : String := s!"struct {name}"

def recordSize (name : String) (fields : Nat) : String :=
  if fields = 1 then s!"struct {name} with 1 element" else s!"struct {name} with {fields} elements"

def decodeInt (name : String) (least greatest : Int) (j : Json) :
    Except Misfit { n : Int // least ≤ n ∧ n ≤ greatest } :=
  match j with
  | .number (.int n) =>
    if h : least ≤ n ∧ n ≤ greatest then .ok ⟨n, h⟩ else .error (.wrongValue j.description name)
  | _ => .error (.wrongType j.description name)

def decodeName (names : List String) (name : String) :
    Except Misfit { name : String // name ∈ names } :=
  if h : name ∈ names then .ok ⟨name, h⟩ else .error (.unknownChoice name names)

/-- A choice is a text, or an object with the name as its one key and nothing under it. -/
def decodeChoice (names : List String) (j : Json) :
    Except Misfit { name : String // name ∈ names } :=
  match j with
  | .string name => decodeName names name
  | .object [(name, value)] => do
    let choice ← decodeName names name
    match value with
    | .null => .ok choice
    | _ => .error (.wrongType value.description "unit")
  | .object _ => .error (.wrongValue j.description "map with a single key")
  | _ => .error (.wrongType j.description "string or map")

/-- The value of a field that is not there. -/
def decodeMissing (name : String) : (shape : Shape) → Except Misfit shape.Value
  | optional _ => .ok (none : Option _)
  | _ => .error (.missingField name)

mutual

def decode : (shape : Shape) → Json → Except Misfit shape.Value
  | int name least greatest, j => decodeInt name least greatest j
  | bool, j =>
    match j with
    | .bool b => .ok (b : Bool)
    | _ => .error (.wrongType j.description "a boolean")
  | text, j =>
    match j with
    | .string s => .ok (s : String)
    | _ => .error (.wrongType j.description "a string")
  | optional inner, j =>
    match j with
    | .null => .ok (none : Option _)
    | _ => (decode inner j).map (some : _ → Option _)
  | list inner, j =>
    match j with
    | .array items => (items.mapM (decode inner) : Except Misfit (List _))
    | _ => .error (.wrongType j.description "a sequence")
  | record name fields, j =>
    match j with
    | .object members =>
      match members.findSome? fun (key, _) => (misfits fields members).lookup key with
      | some misfit => .error misfit
      | none => decodeMembers fields members
    | .array items => decodeItems (recordSize name fields.length) items.length 0 fields items
    | _ => .error (.wrongType j.description (recordName name))
  | choice names, j => decodeChoice names j

/-- The fields whose members do not fit. The one that comes first in the object is reported. -/
def misfits : List (String × Shape) → List (String × Json) → List (String × Misfit)
  | [], _ => []
  | (name, shape) :: rest, members =>
    match (members.lookup name).map (decode shape) with
    | some (.error misfit) => (name, misfit) :: misfits rest members
    | _ => misfits rest members

/-- The fields in order, each from the member of its name. -/
def decodeMembers : (fields : List (String × Shape)) → List (String × Json) →
    Except Misfit (Values fields)
  | [], _ => .ok ()
  | (name, shape) :: rest, members => do
    let v ← match members.lookup name with
      | some j => decode shape j
      | none => decodeMissing name shape
    let vs ← decodeMembers rest members
    .ok (v, vs)

/-- The fields in order, each from the item in its place; `count` of them are read and there are
`total` items. -/
def decodeItems (expected : String) (total : Nat) : Nat → (fields : List (String × Shape)) →
    List Json → Except Misfit (Values fields)
  | _, [], [] => .ok ()
  | _, [], _ :: _ => .error (.wrongLength total "fewer elements in array")
  | count, (_, _) :: _, [] => .error (.wrongLength count expected)
  | count, (_, shape) :: rest, j :: items => do
    let v ← decode shape j
    let vs ← decodeItems expected total (count + 1) rest items
    .ok (v, vs)

end

end MessageBus.Shape
