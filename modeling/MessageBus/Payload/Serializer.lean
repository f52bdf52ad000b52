import MessageBus.Catalog
import MessageBus.Json.Reader
import MessageBus.Json.Writer
import MessageBus.Payload.Decoding

/-! Payloads as octets. The bus stores octets and looks into none of them; a serializer turns data
into octets and back. -/
namespace MessageBus

/-- A kind of payload: the name under which it is published, the name of its type, and its values.
A value may refuse to be written, with a reason. -/
structure PayloadType where
  messageType : String
  typeName : String
  shape : Shape
  refusal? : shape.Value → Option String

def PayloadType.spec (p : PayloadType) : MessageTypeSpec := ⟨p.messageType, p.typeName⟩

/-- A value of some kind of payload. -/
structure Payload where
  type : PayloadType
  value : type.shape.Value

/-- Why a payload is not written: it refuses to be, or has a number that data cannot hold. -/
def Payload.refusal? (p : Payload) : Option String :=
  p.type.refusal? p.value <|>
    if p.type.shape.fits p.value then none else some "number out of range"

structure Serializer where
  /-- The name of the format. -/
  format : String
  /-- The name of the serializer itself. -/
  name : String
  write : Json → Except String Bytes
  read : Bytes → Except String Json

/-- Compact JSON. -/
def Serializer.json : Serializer where
  format := "json"
  name := "JsonSerializer"
  write j := .ok j.toBytes
  read b := (Json.ofBytes b).mapError Json.ReadError.message

inductive SerializerError where
  | serialize (typeName reason : String)
  | deserialize (typeName reason : String)
  deriving DecidableEq, Repr

def SerializerError.message : SerializerError → String
  | serialize typeName reason => s!"failed to serialize {typeName}: {reason}"
  | deserialize typeName reason => s!"failed to deserialize {typeName}: {reason}"

namespace Serializer

def encode (s : Serializer) (p : Payload) : Except SerializerError Bytes :=
  match p.refusal? with
  | some reason => .error (.serialize p.type.typeName reason)
  | none => (s.write (p.type.shape.encode p.value)).mapError (.serialize p.type.typeName)

def decode (s : Serializer) (type : PayloadType) (b : Bytes) :
    Except SerializerError type.shape.Value :=
  match s.read b with
  | .error reason => .error (.deserialize type.typeName reason)
  | .ok j => (type.shape.decode j).mapError fun misfit => .deserialize type.typeName misfit.message

theorem encode_json_eq_ok_iff {p : Payload} {b : Bytes} : json.encode p = .ok b ↔
    p.type.refusal? p.value = none ∧ p.type.shape.fits p.value = true ∧
      (p.type.shape.encode p.value).toBytes = b := by
  rw [encode, Payload.refusal?]
  cases p.type.refusal? p.value with
  | some reason => simp
  | none =>
    cases p.type.shape.fits p.value with
    | false => simp
    | true => exact ⟨fun | rfl => ⟨rfl, rfl, rfl⟩, fun | ⟨_, _, rfl⟩ => rfl⟩

end Serializer
end MessageBus
