import MessageBus.Json.Value

/-! The types of payloads: whole numbers of a range, truth values, texts, optional values, lists,
records and choices, with the values of each type and the data they are written as. -/
namespace MessageBus

inductive Shape where
  /-- Whole numbers between two bounds, under the name of their type. -/
  | int (name : String) (least greatest : Int)
  | bool
  | text
  | optional (inner : Shape)
  | list (inner : Shape)
  | record (name : String) (fields : List (String × Shape))
  /-- One of several names. -/
  | choice (names : List String)

namespace Shape

mutual

/-- The values of a type. -/
def Value : Shape → Type
  | int _ least greatest => { n : Int // least ≤ n ∧ n ≤ greatest }
  | bool => Bool
  | text => String
  | optional inner => Option (Value inner)
  | list inner => List (Value inner)
  | record _ fields => Values fields
  | choice names => { name : String // name ∈ names }

/-- The values of the fields of a record. -/
def Values : List (String × Shape) → Type
  | [] => Unit
  | (_, shape) :: rest => Value shape × Values rest

end

mutual

/-- The data that a value is written as. -/
def encode : (shape : Shape) → shape.Value → Json
  | int _ _ _, n => .int n.val
  | bool, b => .bool b
  | text, s => .string s
  | optional _, none => .null
  | optional inner, some v => encode inner v
  | list inner, vs => .array (vs.map (encode inner))
  | record _ fields, vs => .ofMembers (encodeFields fields vs)
  | choice _, name => .string name.val

def encodeFields : (fields : List (String × Shape)) → Values fields → List (String × Json)
  | [], _ => []
  | (name, shape) :: rest, (v, vs) => (name, encode shape v) :: encodeFields rest vs

end

mutual

/-- Whether data can hold a value: its whole numbers fit into 64 bits. -/
def fits : (shape : Shape) → shape.Value → Bool
  | int _ _ _, n => Json.isWholeNumber n.val
  | bool, _ => true
  | text, _ => true
  | optional _, none => true
  | optional inner, some v => fits inner v
  | list inner, vs => vs.all (fits inner)
  | record _ fields, vs => fieldsFit fields vs
  | choice _, _ => true

def fieldsFit : (fields : List (String × Shape)) → Values fields → Bool
  | [], _ => true
  | (_, shape) :: rest, (v, vs) => fits shape v && fieldsFit rest vs

end

def u16 : Shape := int "u16" 0 65_535
def u32 : Shape := int "u32" 0 4_294_967_295
def i64 : Shape := int "i64" Int64.minValue.toInt Int64.maxValue.toInt

end Shape
end MessageBus
